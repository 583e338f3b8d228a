import AssetCatalog.Unicode.Decomposition

/-! The canonical pairs of characters of Unicode 14 that compose into one. -/

set_option maxRecDepth 20000

namespace AssetCatalog.Unicode

/-- Each pair that composes, followed by the character it makes. -/
def compositionRows : List Nat := [
  0x0003C_00338_0226E, 0x0003D_00338_02260, 0x0003E_00338_0226F, 0x00041_00300_000C0,
  0x00041_00301_000C1, 0x00041_00302_000C2, 0x00041_00303_000C3, 0x00041_00304_00100,
  0x00041_00306_00102, 0x00041_00307_00226, 0x00041_00308_000C4, 0x00041_00309_01EA2,
  0x00041_0030A_000C5, 0x00041_0030C_001CD, 0x00041_0030F_00200, 0x00041_00311_00202,
  0x00041_00323_01EA0, 0x00041_00325_01E00, 0x00041_00328_00104, 0x00042_00307_01E02,
  0x00042_00323_01E04, 0x00042_00331_01E06, 0x00043_00301_00106, 0x00043_00302_00108,
  0x00043_00307_0010A, 0x00043_0030C_0010C, 0x00043_00327_000C7, 0x00044_00307_01E0A,
  0x00044_0030C_0010E, 0x00044_00323_01E0C, 0x00044_00327_01E10, 0x00044_0032D_01E12,
  0x00044_00331_01E0E, 0x00045_00300_000C8, 0x00045_00301_000C9, 0x00045_00302_000CA,
  0x00045_00303_01EBC, 0x00045_00304_00112, 0x00045_00306_00114, 0x00045_00307_00116,
  0x00045_00308_000CB, 0x00045_00309_01EBA, 0x00045_0030C_0011A, 0x00045_0030F_00204,
  0x00045_00311_00206, 0x00045_00323_01EB8, 0x00045_00327_00228, 0x00045_00328_00118,
  0x00045_0032D_01E18, 0x00045_00330_01E1A, 0x00046_00307_01E1E, 0x00047_00301_001F4,
  0x00047_00302_0011C, 0x00047_00304_01E20, 0x00047_00306_0011E, 0x00047_00307_00120,
  0x00047_0030C_001E6, 0x00047_00327_00122, 0x00048_00302_00124, 0x00048_00307_01E22,
  0x00048_00308_01E26, 0x00048_0030C_0021E, 0x00048_00323_01E24, 0x00048_00327_01E28,
  0x00048_0032E_01E2A, 0x00049_00300_000CC, 0x00049_00301_000CD, 0x00049_00302_000CE,
  0x00049_00303_00128, 0x00049_00304_0012A, 0x00049_00306_0012C, 0x00049_00307_00130,
  0x00049_00308_000CF, 0x00049_00309_01EC8, 0x00049_0030C_001CF, 0x00049_0030F_00208,
  0x00049_00311_0020A, 0x00049_00323_01ECA, 0x00049_00328_0012E, 0x00049_00330_01E2C,
  0x0004A_00302_00134, 0x0004B_00301_01E30, 0x0004B_0030C_001E8, 0x0004B_00323_01E32,
  0x0004B_00327_00136, 0x0004B_00331_01E34, 0x0004C_00301_00139, 0x0004C_0030C_0013D,
  0x0004C_00323_01E36, 0x0004C_00327_0013B, 0x0004C_0032D_01E3C, 0x0004C_00331_01E3A,
  0x0004D_00301_01E3E, 0x0004D_00307_01E40, 0x0004D_00323_01E42, 0x0004E_00300_001F8,
  0x0004E_00301_00143, 0x0004E_00303_000D1, 0x0004E_00307_01E44, 0x0004E_0030C_00147,
  0x0004E_00323_01E46, 0x0004E_00327_00145, 0x0004E_0032D_01E4A, 0x0004E_00331_01E48,
  0x0004F_00300_000D2, 0x0004F_00301_000D3, 0x0004F_00302_000D4, 0x0004F_00303_000D5,
  0x0004F_00304_0014C, 0x0004F_00306_0014E, 0x0004F_00307_0022E, 0x0004F_00308_000D6,
  0x0004F_00309_01ECE, 0x0004F_0030B_00150, 0x0004F_0030C_001D1, 0x0004F_0030F_0020C,
  0x0004F_00311_0020E, 0x0004F_0031B_001A0, 0x0004F_00323_01ECC, 0x0004F_00328_001EA,
  0x00050_00301_01E54, 0x00050_00307_01E56, 0x00052_00301_00154, 0x00052_00307_01E58,
  0x00052_0030C_00158, 0x00052_0030F_00210, 0x00052_00311_00212, 0x00052_00323_01E5A,
  0x00052_00327_00156, 0x00052_00331_01E5E, 0x00053_00301_0015A, 0x00053_00302_0015C,
  0x00053_00307_01E60, 0x00053_0030C_00160, 0x00053_00323_01E62, 0x00053_00326_00218,
  0x00053_00327_0015E, 0x00054_00307_01E6A, 0x00054_0030C_00164, 0x00054_00323_01E6C,
  0x00054_00326_0021A, 0x00054_00327_00162, 0x00054_0032D_01E70, 0x00054_00331_01E6E,
  0x00055_00300_000D9, 0x00055_00301_000DA, 0x00055_00302_000DB, 0x00055_00303_00168,
  0x00055_00304_0016A, 0x00055_00306_0016C, 0x00055_00308_000DC, 0x00055_00309_01EE6,
  0x00055_0030A_0016E, 0x00055_0030B_00170, 0x00055_0030C_001D3, 0x00055_0030F_00214,
  0x00055_00311_00216, 0x00055_0031B_001AF, 0x00055_00323_01EE4, 0x00055_00324_01E72,
  0x00055_00328_00172, 0x00055_0032D_01E76, 0x00055_00330_01E74, 0x00056_00303_01E7C,
  0x00056_00323_01E7E, 0x00057_00300_01E80, 0x00057_00301_01E82, 0x00057_00302_00174,
  0x00057_00307_01E86, 0x00057_00308_01E84, 0x00057_00323_01E88, 0x00058_00307_01E8A,
  0x00058_00308_01E8C, 0x00059_00300_01EF2, 0x00059_00301_000DD, 0x00059_00302_00176,
  0x00059_00303_01EF8, 0x00059_00304_00232, 0x00059_00307_01E8E, 0x00059_00308_00178,
  0x00059_00309_01EF6, 0x00059_00323_01EF4, 0x0005A_00301_00179, 0x0005A_00302_01E90,
  0x0005A_00307_0017B, 0x0005A_0030C_0017D, 0x0005A_00323_01E92, 0x0005A_00331_01E94,
  0x00061_00300_000E0, 0x00061_00301_000E1, 0x00061_00302_000E2, 0x00061_00303_000E3,
  0x00061_00304_00101, 0x00061_00306_00103, 0x00061_00307_00227, 0x00061_00308_000E4,
  0x00061_00309_01EA3, 0x00061_0030A_000E5, 0x00061_0030C_001CE, 0x00061_0030F_00201,
  0x00061_00311_00203, 0x00061_00323_01EA1, 0x00061_00325_01E01, 0x00061_00328_00105,
  0x00062_00307_01E03, 0x00062_00323_01E05, 0x00062_00331_01E07, 0x00063_00301_00107,
  0x00063_00302_00109, 0x00063_00307_0010B, 0x00063_0030C_0010D, 0x00063_00327_000E7,
  0x00064_00307_01E0B, 0x00064_0030C_0010F, 0x00064_00323_01E0D, 0x00064_00327_01E11,
  0x00064_0032D_01E13, 0x00064_00331_01E0F, 0x00065_00300_000E8, 0x00065_00301_000E9,
  0x00065_00302_000EA, 0x00065_00303_01EBD, 0x00065_00304_00113, 0x00065_00306_00115,
  0x00065_00307_00117, 0x00065_00308_000EB, 0x00065_00309_01EBB, 0x00065_0030C_0011B,
  0x00065_0030F_00205, 0x00065_00311_00207, 0x00065_00323_01EB9, 0x00065_00327_00229,
  0x00065_00328_00119, 0x00065_0032D_01E19, 0x00065_00330_01E1B, 0x00066_00307_01E1F,
  0x00067_00301_001F5, 0x00067_00302_0011D, 0x00067_00304_01E21, 0x00067_00306_0011F,
  0x00067_00307_00121, 0x00067_0030C_001E7, 0x00067_00327_00123, 0x00068_00302_00125,
  0x00068_00307_01E23, 0x00068_00308_01E27, 0x00068_0030C_0021F, 0x00068_00323_01E25,
  0x00068_00327_01E29, 0x00068_0032E_01E2B, 0x00068_00331_01E96, 0x00069_00300_000EC,
  0x00069_00301_000ED, 0x00069_00302_000EE, 0x00069_00303_00129, 0x00069_00304_0012B,
  0x00069_00306_0012D, 0x00069_00308_000EF, 0x00069_00309_01EC9, 0x00069_0030C_001D0,
  0x00069_0030F_00209, 0x00069_00311_0020B, 0x00069_00323_01ECB, 0x00069_00328_0012F,
  0x00069_00330_01E2D, 0x0006A_00302_00135, 0x0006A_0030C_001F0, 0x0006B_00301_01E31,
  0x0006B_0030C_001E9, 0x0006B_00323_01E33, 0x0006B_00327_00137, 0x0006B_00331_01E35,
  0x0006C_00301_0013A, 0x0006C_0030C_0013E, 0x0006C_00323_01E37, 0x0006C_00327_0013C,
  0x0006C_0032D_01E3D, 0x0006C_00331_01E3B, 0x0006D_00301_01E3F, 0x0006D_00307_01E41,
  0x0006D_00323_01E43, 0x0006E_00300_001F9, 0x0006E_00301_00144, 0x0006E_00303_000F1,
  0x0006E_00307_01E45, 0x0006E_0030C_00148, 0x0006E_00323_01E47, 0x0006E_00327_00146,
  0x0006E_0032D_01E4B, 0x0006E_00331_01E49, 0x0006F_00300_000F2, 0x0006F_00301_000F3,
  0x0006F_00302_000F4, 0x0006F_00303_000F5, 0x0006F_00304_0014D, 0x0006F_00306_0014F,
  0x0006F_00307_0022F, 0x0006F_00308_000F6, 0x0006F_00309_01ECF, 0x0006F_0030B_00151,
  0x0006F_0030C_001D2, 0x0006F_0030F_0020D, 0x0006F_00311_0020F, 0x0006F_0031B_001A1,
  0x0006F_00323_01ECD, 0x0006F_00328_001EB, 0x00070_00301_01E55, 0x00070_00307_01E57,
  0x00072_00301_00155, 0x00072_00307_01E59, 0x00072_0030C_00159, 0x00072_0030F_00211,
  0x00072_00311_00213, 0x00072_00323_01E5B, 0x00072_00327_00157, 0x00072_00331_01E5F,
  0x00073_00301_0015B, 0x00073_00302_0015D, 0x00073_00307_01E61, 0x00073_0030C_00161,
  0x00073_00323_01E63, 0x00073_00326_00219, 0x00073_00327_0015F, 0x00074_00307_01E6B,
  0x00074_00308_01E97, 0x00074_0030C_00165, 0x00074_00323_01E6D, 0x00074_00326_0021B,
  0x00074_00327_00163, 0x00074_0032D_01E71, 0x00074_00331_01E6F, 0x00075_00300_000F9,
  0x00075_00301_000FA, 0x00075_00302_000FB, 0x00075_00303_00169, 0x00075_00304_0016B,
  0x00075_00306_0016D, 0x00075_00308_000FC, 0x00075_00309_01EE7, 0x00075_0030A_0016F,
  0x00075_0030B_00171, 0x00075_0030C_001D4, 0x00075_0030F_00215, 0x00075_00311_00217,
  0x00075_0031B_001B0, 0x00075_00323_01EE5, 0x00075_00324_01E73, 0x00075_00328_00173,
  0x00075_0032D_01E77, 0x00075_00330_01E75, 0x00076_00303_01E7D, 0x00076_00323_01E7F,
  0x00077_00300_01E81, 0x00077_00301_01E83, 0x00077_00302_00175, 0x00077_00307_01E87,
  0x00077_00308_01E85, 0x00077_0030A_01E98, 0x00077_00323_01E89, 0x00078_00307_01E8B,
  0x00078_00308_01E8D, 0x00079_00300_01EF3, 0x00079_00301_000FD, 0x00079_00302_00177,
  0x00079_00303_01EF9, 0x00079_00304_00233, 0x00079_00307_01E8F, 0x00079_00308_000FF,
  0x00079_00309_01EF7, 0x00079_0030A_01E99, 0x00079_00323_01EF5, 0x0007A_00301_0017A,
  0x0007A_00302_01E91, 0x0007A_00307_0017C, 0x0007A_0030C_0017E, 0x0007A_00323_01E93,
  0x0007A_00331_01E95, 0x000A8_00300_01FED, 0x000A8_00301_00385, 0x000A8_00342_01FC1,
  0x000C2_00300_01EA6, 0x000C2_00301_01EA4, 0x000C2_00303_01EAA, 0x000C2_00309_01EA8,
  0x000C4_00304_001DE, 0x000C5_00301_001FA, 0x000C6_00301_001FC, 0x000C6_00304_001E2,
  0x000C7_00301_01E08, 0x000CA_00300_01EC0, 0x000CA_00301_01EBE, 0x000CA_00303_01EC4,
  0x000CA_00309_01EC2, 0x000CF_00301_01E2E, 0x000D4_00300_01ED2, 0x000D4_00301_01ED0,
  0x000D4_00303_01ED6, 0x000D4_00309_01ED4, 0x000D5_00301_01E4C, 0x000D5_00304_0022C,
  0x000D5_00308_01E4E, 0x000D6_00304_0022A, 0x000D8_00301_001FE, 0x000DC_00300_001DB,
  0x000DC_00301_001D7, 0x000DC_00304_001D5, 0x000DC_0030C_001D9, 0x000E2_00300_01EA7,
  0x000E2_00301_01EA5, 0x000E2_00303_01EAB, 0x000E2_00309_01EA9, 0x000E4_00304_001DF,
  0x000E5_00301_001FB, 0x000E6_00301_001FD, 0x000E6_00304_001E3, 0x000E7_00301_01E09,
  0x000EA_00300_01EC1, 0x000EA_00301_01EBF, 0x000EA_00303_01EC5, 0x000EA_00309_01EC3,
  0x000EF_00301_01E2F, 0x000F4_00300_01ED3, 0x000F4_00301_01ED1, 0x000F4_00303_01ED7,
  0x000F4_00309_01ED5, 0x000F5_00301_01E4D, 0x000F5_00304_0022D, 0x000F5_00308_01E4F,
  0x000F6_00304_0022B, 0x000F8_00301_001FF, 0x000FC_00300_001DC, 0x000FC_00301_001D8,
  0x000FC_00304_001D6, 0x000FC_0030C_001DA, 0x00102_00300_01EB0, 0x00102_00301_01EAE,
  0x00102_00303_01EB4, 0x00102_00309_01EB2, 0x00103_00300_01EB1, 0x00103_00301_01EAF,
  0x00103_00303_01EB5, 0x00103_00309_01EB3, 0x00112_00300_01E14, 0x00112_00301_01E16,
  0x00113_00300_01E15, 0x00113_00301_01E17, 0x0014C_00300_01E50, 0x0014C_00301_01E52,
  0x0014D_00300_01E51, 0x0014D_00301_01E53, 0x0015A_00307_01E64, 0x0015B_00307_01E65,
  0x00160_00307_01E66, 0x00161_00307_01E67, 0x00168_00301_01E78, 0x00169_00301_01E79,
  0x0016A_00308_01E7A, 0x0016B_00308_01E7B, 0x0017F_00307_01E9B, 0x001A0_00300_01EDC,
  0x001A0_00301_01EDA, 0x001A0_00303_01EE0, 0x001A0_00309_01EDE, 0x001A0_00323_01EE2,
  0x001A1_00300_01EDD, 0x001A1_00301_01EDB, 0x001A1_00303_01EE1, 0x001A1_00309_01EDF,
  0x001A1_00323_01EE3, 0x001AF_00300_01EEA, 0x001AF_00301_01EE8, 0x001AF_00303_01EEE,
  0x001AF_00309_01EEC, 0x001AF_00323_01EF0, 0x001B0_00300_01EEB, 0x001B0_00301_01EE9,
  0x001B0_00303_01EEF, 0x001B0_00309_01EED, 0x001B0_00323_01EF1, 0x001B7_0030C_001EE,
  0x001EA_00304_001EC, 0x001EB_00304_001ED, 0x00226_00304_001E0, 0x00227_00304_001E1,
  0x00228_00306_01E1C, 0x00229_00306_01E1D, 0x0022E_00304_00230, 0x0022F_00304_00231,
  0x00292_0030C_001EF, 0x00391_00300_01FBA, 0x00391_00301_00386, 0x00391_00304_01FB9,
  0x00391_00306_01FB8, 0x00391_00313_01F08, 0x00391_00314_01F09, 0x00391_00345_01FBC,
  0x00395_00300_01FC8, 0x00395_00301_00388, 0x00395_00313_01F18, 0x00395_00314_01F19,
  0x00397_00300_01FCA, 0x00397_00301_00389, 0x00397_00313_01F28, 0x00397_00314_01F29,
  0x00397_00345_01FCC, 0x00399_00300_01FDA, 0x00399_00301_0038A, 0x00399_00304_01FD9,
  0x00399_00306_01FD8, 0x00399_00308_003AA, 0x00399_00313_01F38, 0x00399_00314_01F39,
  0x0039F_00300_01FF8, 0x0039F_00301_0038C, 0x0039F_00313_01F48, 0x0039F_00314_01F49,
  0x003A1_00314_01FEC, 0x003A5_00300_01FEA, 0x003A5_00301_0038E, 0x003A5_00304_01FE9,
  0x003A5_00306_01FE8, 0x003A5_00308_003AB, 0x003A5_00314_01F59, 0x003A9_00300_01FFA,
  0x003A9_00301_0038F, 0x003A9_00313_01F68, 0x003A9_00314_01F69, 0x003A9_00345_01FFC,
  0x003AC_00345_01FB4, 0x003AE_00345_01FC4, 0x003B1_00300_01F70, 0x003B1_00301_003AC,
  0x003B1_00304_01FB1, 0x003B1_00306_01FB0, 0x003B1_00313_01F00, 0x003B1_00314_01F01,
  0x003B1_00342_01FB6, 0x003B1_00345_01FB3, 0x003B5_00300_01F72, 0x003B5_00301_003AD,
  0x003B5_00313_01F10, 0x003B5_00314_01F11, 0x003B7_00300_01F74, 0x003B7_00301_003AE,
  0x003B7_00313_01F20, 0x003B7_00314_01F21, 0x003B7_00342_01FC6, 0x003B7_00345_01FC3,
  0x003B9_00300_01F76, 0x003B9_00301_003AF, 0x003B9_00304_01FD1, 0x003B9_00306_01FD0,
  0x003B9_00308_003CA, 0x003B9_00313_01F30, 0x003B9_00314_01F31, 0x003B9_00342_01FD6,
  0x003BF_00300_01F78, 0x003BF_00301_003CC, 0x003BF_00313_01F40, 0x003BF_00314_01F41,
  0x003C1_00313_01FE4, 0x003C1_00314_01FE5, 0x003C5_00300_01F7A, 0x003C5_00301_003CD,
  0x003C5_00304_01FE1, 0x003C5_00306_01FE0, 0x003C5_00308_003CB, 0x003C5_00313_01F50,
  0x003C5_00314_01F51, 0x003C5_00342_01FE6, 0x003C9_00300_01F7C, 0x003C9_00301_003CE,
  0x003C9_00313_01F60, 0x003C9_00314_01F61, 0x003C9_00342_01FF6, 0x003C9_00345_01FF3,
  0x003CA_00300_01FD2, 0x003CA_00301_00390, 0x003CA_00342_01FD7, 0x003CB_00300_01FE2,
  0x003CB_00301_003B0, 0x003CB_00342_01FE7, 0x003CE_00345_01FF4, 0x003D2_00301_003D3,
  0x003D2_00308_003D4, 0x00406_00308_00407, 0x00410_00306_004D0, 0x00410_00308_004D2,
  0x00413_00301_00403, 0x00415_00300_00400, 0x00415_00306_004D6, 0x00415_00308_00401,
  0x00416_00306_004C1, 0x00416_00308_004DC, 0x00417_00308_004DE, 0x00418_00300_0040D,
  0x00418_00304_004E2, 0x00418_00306_00419, 0x00418_00308_004E4, 0x0041A_00301_0040C,
  0x0041E_00308_004E6, 0x00423_00304_004EE, 0x00423_00306_0040E, 0x00423_00308_004F0,
  0x00423_0030B_004F2, 0x00427_00308_004F4, 0x0042B_00308_004F8, 0x0042D_00308_004EC,
  0x00430_00306_004D1, 0x00430_00308_004D3, 0x00433_00301_00453, 0x00435_00300_00450,
  0x00435_00306_004D7, 0x00435_00308_00451, 0x00436_00306_004C2, 0x00436_00308_004DD,
  0x00437_00308_004DF, 0x00438_00300_0045D, 0x00438_00304_004E3, 0x00438_00306_00439,
  0x00438_00308_004E5, 0x0043A_00301_0045C, 0x0043E_00308_004E7, 0x00443_00304_004EF,
  0x00443_00306_0045E, 0x00443_00308_004F1, 0x00443_0030B_004F3, 0x00447_00308_004F5,
  0x0044B_00308_004F9, 0x0044D_00308_004ED, 0x00456_00308_00457, 0x00474_0030F_00476,
  0x00475_0030F_00477, 0x004D8_00308_004DA, 0x004D9_00308_004DB, 0x004E8_00308_004EA,
  0x004E9_00308_004EB, 0x00627_00653_00622, 0x00627_00654_00623, 0x00627_00655_00625,
  0x00648_00654_00624, 0x0064A_00654_00626, 0x006C1_00654_006C2, 0x006D2_00654_006D3,
  0x006D5_00654_006C0, 0x00928_0093C_00929, 0x00930_0093C_00931, 0x00933_0093C_00934,
  0x009C7_009BE_009CB, 0x009C7_009D7_009CC, 0x00B47_00B3E_00B4B, 0x00B47_00B56_00B48,
  0x00B47_00B57_00B4C, 0x00B92_00BD7_00B94, 0x00BC6_00BBE_00BCA, 0x00BC6_00BD7_00BCC,
  0x00BC7_00BBE_00BCB, 0x00C46_00C56_00C48, 0x00CBF_00CD5_00CC0, 0x00CC6_00CC2_00CCA,
  0x00CC6_00CD5_00CC7, 0x00CC6_00CD6_00CC8, 0x00CCA_00CD5_00CCB, 0x00D46_00D3E_00D4A,
  0x00D46_00D57_00D4C, 0x00D47_00D3E_00D4B, 0x00DD9_00DCA_00DDA, 0x00DD9_00DCF_00DDC,
  0x00DD9_00DDF_00DDE, 0x00DDC_00DCA_00DDD, 0x01025_0102E_01026, 0x01B05_01B35_01B06,
  0x01B07_01B35_01B08, 0x01B09_01B35_01B0A, 0x01B0B_01B35_01B0C, 0x01B0D_01B35_01B0E,
  0x01B11_01B35_01B12, 0x01B3A_01B35_01B3B, 0x01B3C_01B35_01B3D, 0x01B3E_01B35_01B40,
  0x01B3F_01B35_01B41, 0x01B42_01B35_01B43, 0x01E36_00304_01E38, 0x01E37_00304_01E39,
  0x01E5A_00304_01E5C, 0x01E5B_00304_01E5D, 0x01E62_00307_01E68, 0x01E63_00307_01E69,
  0x01EA0_00302_01EAC, 0x01EA0_00306_01EB6, 0x01EA1_00302_01EAD, 0x01EA1_00306_01EB7,
  0x01EB8_00302_01EC6, 0x01EB9_00302_01EC7, 0x01ECC_00302_01ED8, 0x01ECD_00302_01ED9,
  0x01F00_00300_01F02, 0x01F00_00301_01F04, 0x01F00_00342_01F06, 0x01F00_00345_01F80,
  0x01F01_00300_01F03, 0x01F01_00301_01F05, 0x01F01_00342_01F07, 0x01F01_00345_01F81,
  0x01F02_00345_01F82, 0x01F03_00345_01F83, 0x01F04_00345_01F84, 0x01F05_00345_01F85,
  0x01F06_00345_01F86, 0x01F07_00345_01F87, 0x01F08_00300_01F0A, 0x01F08_00301_01F0C,
  0x01F08_00342_01F0E, 0x01F08_00345_01F88, 0x01F09_00300_01F0B, 0x01F09_00301_01F0D,
  0x01F09_00342_01F0F, 0x01F09_00345_01F89, 0x01F0A_00345_01F8A, 0x01F0B_00345_01F8B,
  0x01F0C_00345_01F8C, 0x01F0D_00345_01F8D, 0x01F0E_00345_01F8E, 0x01F0F_00345_01F8F,
  0x01F10_00300_01F12, 0x01F10_00301_01F14, 0x01F11_00300_01F13, 0x01F11_00301_01F15,
  0x01F18_00300_01F1A, 0x01F18_00301_01F1C, 0x01F19_00300_01F1B, 0x01F19_00301_01F1D,
  0x01F20_00300_01F22, 0x01F20_00301_01F24, 0x01F20_00342_01F26, 0x01F20_00345_01F90,
  0x01F21_00300_01F23, 0x01F21_00301_01F25, 0x01F21_00342_01F27, 0x01F21_00345_01F91,
  0x01F22_00345_01F92, 0x01F23_00345_01F93, 0x01F24_00345_01F94, 0x01F25_00345_01F95,
  0x01F26_00345_01F96, 0x01F27_00345_01F97, 0x01F28_00300_01F2A, 0x01F28_00301_01F2C,
  0x01F28_00342_01F2E, 0x01F28_00345_01F98, 0x01F29_00300_01F2B, 0x01F29_00301_01F2D,
  0x01F29_00342_01F2F, 0x01F29_00345_01F99, 0x01F2A_00345_01F9A, 0x01F2B_00345_01F9B,
  0x01F2C_00345_01F9C, 0x01F2D_00345_01F9D, 0x01F2E_00345_01F9E, 0x01F2F_00345_01F9F,
  0x01F30_00300_01F32, 0x01F30_00301_01F34, 0x01F30_00342_01F36, 0x01F31_00300_01F33,
  0x01F31_00301_01F35, 0x01F31_00342_01F37, 0x01F38_00300_01F3A, 0x01F38_00301_01F3C,
  0x01F38_00342_01F3E, 0x01F39_00300_01F3B, 0x01F39_00301_01F3D, 0x01F39_00342_01F3F,
  0x01F40_00300_01F42, 0x01F40_00301_01F44, 0x01F41_00300_01F43, 0x01F41_00301_01F45,
  0x01F48_00300_01F4A, 0x01F48_00301_01F4C, 0x01F49_00300_01F4B, 0x01F49_00301_01F4D,
  0x01F50_00300_01F52, 0x01F50_00301_01F54, 0x01F50_00342_01F56, 0x01F51_00300_01F53,
  0x01F51_00301_01F55, 0x01F51_00342_01F57, 0x01F59_00300_01F5B, 0x01F59_00301_01F5D,
  0x01F59_00342_01F5F, 0x01F60_00300_01F62, 0x01F60_00301_01F64, 0x01F60_00342_01F66,
  0x01F60_00345_01FA0, 0x01F61_00300_01F63, 0x01F61_00301_01F65, 0x01F61_00342_01F67,
  0x01F61_00345_01FA1, 0x01F62_00345_01FA2, 0x01F63_00345_01FA3, 0x01F64_00345_01FA4,
  0x01F65_00345_01FA5, 0x01F66_00345_01FA6, 0x01F67_00345_01FA7, 0x01F68_00300_01F6A,
  0x01F68_00301_01F6C, 0x01F68_00342_01F6E, 0x01F68_00345_01FA8, 0x01F69_00300_01F6B,
  0x01F69_00301_01F6D, 0x01F69_00342_01F6F, 0x01F69_00345_01FA9, 0x01F6A_00345_01FAA,
  0x01F6B_00345_01FAB, 0x01F6C_00345_01FAC, 0x01F6D_00345_01FAD, 0x01F6E_00345_01FAE,
  0x01F6F_00345_01FAF, 0x01F70_00345_01FB2, 0x01F74_00345_01FC2, 0x01F7C_00345_01FF2,
  0x01FB6_00345_01FB7, 0x01FBF_00300_01FCD, 0x01FBF_00301_01FCE, 0x01FBF_00342_01FCF,
  0x01FC6_00345_01FC7, 0x01FF6_00345_01FF7, 0x01FFE_00300_01FDD, 0x01FFE_00301_01FDE,
  0x01FFE_00342_01FDF, 0x02190_00338_0219A, 0x02192_00338_0219B, 0x02194_00338_021AE,
  0x021D0_00338_021CD, 0x021D2_00338_021CF, 0x021D4_00338_021CE, 0x02203_00338_02204,
  0x02208_00338_02209, 0x0220B_00338_0220C, 0x02223_00338_02224, 0x02225_00338_02226,
  0x0223C_00338_02241, 0x02243_00338_02244, 0x02245_00338_02247, 0x02248_00338_02249,
  0x0224D_00338_0226D, 0x02261_00338_02262, 0x02264_00338_02270, 0x02265_00338_02271,
  0x02272_00338_02274, 0x02273_00338_02275, 0x02276_00338_02278, 0x02277_00338_02279,
  0x0227A_00338_02280, 0x0227B_00338_02281, 0x0227C_00338_022E0, 0x0227D_00338_022E1,
  0x02282_00338_02284, 0x02283_00338_02285, 0x02286_00338_02288, 0x02287_00338_02289,
  0x02291_00338_022E2, 0x02292_00338_022E3, 0x022A2_00338_022AC, 0x022A8_00338_022AD,
  0x022A9_00338_022AE, 0x022AB_00338_022AF, 0x022B2_00338_022EA, 0x022B3_00338_022EB,
  0x022B4_00338_022EC, 0x022B5_00338_022ED, 0x03046_03099_03094, 0x0304B_03099_0304C,
  0x0304D_03099_0304E, 0x0304F_03099_03050, 0x03051_03099_03052, 0x03053_03099_03054,
  0x03055_03099_03056, 0x03057_03099_03058, 0x03059_03099_0305A, 0x0305B_03099_0305C,
  0x0305D_03099_0305E, 0x0305F_03099_03060, 0x03061_03099_03062, 0x03064_03099_03065,
  0x03066_03099_03067, 0x03068_03099_03069, 0x0306F_03099_03070, 0x0306F_0309A_03071,
  0x03072_03099_03073, 0x03072_0309A_03074, 0x03075_03099_03076, 0x03075_0309A_03077,
  0x03078_03099_03079, 0x03078_0309A_0307A, 0x0307B_03099_0307C, 0x0307B_0309A_0307D,
  0x0309D_03099_0309E, 0x030A6_03099_030F4, 0x030AB_03099_030AC, 0x030AD_03099_030AE,
  0x030AF_03099_030B0, 0x030B1_03099_030B2, 0x030B3_03099_030B4, 0x030B5_03099_030B6,
  0x030B7_03099_030B8, 0x030B9_03099_030BA, 0x030BB_03099_030BC, 0x030BD_03099_030BE,
  0x030BF_03099_030C0, 0x030C1_03099_030C2, 0x030C4_03099_030C5, 0x030C6_03099_030C7,
  0x030C8_03099_030C9, 0x030CF_03099_030D0, 0x030CF_0309A_030D1, 0x030D2_03099_030D3,
  0x030D2_0309A_030D4, 0x030D5_03099_030D6, 0x030D5_0309A_030D7, 0x030D8_03099_030D9,
  0x030D8_0309A_030DA, 0x030DB_03099_030DC, 0x030DB_0309A_030DD, 0x030EF_03099_030F7,
  0x030F0_03099_030F8, 0x030F1_03099_030F9, 0x030F2_03099_030FA, 0x030FD_03099_030FE,
  0x11099_110BA_1109A, 0x1109B_110BA_1109C, 0x110A5_110BA_110AB, 0x11131_11127_1112E,
  0x11132_11127_1112F, 0x11347_1133E_1134B, 0x11347_11357_1134C, 0x114B9_114B0_114BC,
  0x114B9_114BA_114BB, 0x114B9_114BD_114BE, 0x115B8_115AF_115BA, 0x115B9_115AF_115BB,
  0x11935_11930_11938]

/-- The character that a pair makes in a list of rows, where it makes one. -/
def composition? : List Nat → Nat → Nat → Option Nat
  -- A row has twenty bits for each of its three characters.
  | [], _, _ => none
  | row :: rest, first, second =>
    if row / 0x10000000000 = first ∧ row / 0x100000 % 0x100000 = second then some (row % 0x100000)
    else composition? rest first second

end AssetCatalog.Unicode
