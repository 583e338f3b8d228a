import AssetCatalog.Text

/-! The full compatibility decompositions and the combining classes of Unicode 14. -/

set_option maxRecDepth 60000

namespace AssetCatalog.Unicode

/-- The code points of a table row, which holds five hexadecimal digits for each of them. -/
def rowCodes (row : Nat) : List Nat :=
  -- A row has at most nineteen code points, and a leading one is never zero.
  go 20 row []
where
  /-- The codes of a row before the ones already read. -/
  go : Nat → Nat → List Nat → List Nat
    | 0, _, codes => codes
    | n + 1, row, codes =>
      if row = 0 then codes else go n (row / 0x100000) (row % 0x100000 :: codes)

/-- The rows of each page of 256 code points: a full decomposition followed by its character. -/
def decompositionPages : List (Nat × List Nat) := [
  (0x000, [0x00020_000A0, 0x00020_00308_000A8, 0x00061_000AA, 0x00020_00304_000AF, 0x00032_000B2,
    0x00033_000B3, 0x00020_00301_000B4, 0x003BC_000B5, 0x00020_00327_000B8, 0x00031_000B9,
    0x0006F_000BA, 0x00031_02044_00034_000BC, 0x00031_02044_00032_000BD, 0x00033_02044_00034_000BE,
    0x00041_00300_000C0, 0x00041_00301_000C1, 0x00041_00302_000C2, 0x00041_00303_000C3,
    0x00041_00308_000C4, 0x00041_0030A_000C5, 0x00043_00327_000C7, 0x00045_00300_000C8,
    0x00045_00301_000C9, 0x00045_00302_000CA, 0x00045_00308_000CB, 0x00049_00300_000CC,
    0x00049_00301_000CD, 0x00049_00302_000CE, 0x00049_00308_000CF, 0x0004E_00303_000D1,
    0x0004F_00300_000D2, 0x0004F_00301_000D3, 0x0004F_00302_000D4, 0x0004F_00303_000D5,
    0x0004F_00308_000D6, 0x00055_00300_000D9, 0x00055_00301_000DA, 0x00055_00302_000DB,
    0x00055_00308_000DC, 0x00059_00301_000DD, 0x00061_00300_000E0, 0x00061_00301_000E1,
    0x00061_00302_000E2, 0x00061_00303_000E3, 0x00061_00308_000E4, 0x00061_0030A_000E5,
    0x00063_00327_000E7, 0x00065_00300_000E8, 0x00065_00301_000E9, 0x00065_00302_000EA,
    0x00065_00308_000EB, 0x00069_00300_000EC, 0x00069_00301_000ED, 0x00069_00302_000EE,
    0x00069_00308_000EF, 0x0006E_00303_000F1, 0x0006F_00300_000F2, 0x0006F_00301_000F3,
    0x0006F_00302_000F4, 0x0006F_00303_000F5, 0x0006F_00308_000F6, 0x00075_00300_000F9,
    0x00075_00301_000FA, 0x00075_00302_000FB, 0x00075_00308_000FC, 0x00079_00301_000FD,
    0x00079_00308_000FF]),
  (0x001, [0x00041_00304_00100, 0x00061_00304_00101, 0x00041_00306_00102, 0x00061_00306_00103,
    0x00041_00328_00104, 0x00061_00328_00105, 0x00043_00301_00106, 0x00063_00301_00107,
    0x00043_00302_00108, 0x00063_00302_00109, 0x00043_00307_0010A, 0x00063_00307_0010B,
    0x00043_0030C_0010C, 0x00063_0030C_0010D, 0x00044_0030C_0010E, 0x00064_0030C_0010F,
    0x00045_00304_00112, 0x00065_00304_00113, 0x00045_00306_00114, 0x00065_00306_00115,
    0x00045_00307_00116, 0x00065_00307_00117, 0x00045_00328_00118, 0x00065_00328_00119,
    0x00045_0030C_0011A, 0x00065_0030C_0011B, 0x00047_00302_0011C, 0x00067_00302_0011D,
    0x00047_00306_0011E, 0x00067_00306_0011F, 0x00047_00307_00120, 0x00067_00307_00121,
    0x00047_00327_00122, 0x00067_00327_00123, 0x00048_00302_00124, 0x00068_00302_00125,
    0x00049_00303_00128, 0x00069_00303_00129, 0x00049_00304_0012A, 0x00069_00304_0012B,
    0x00049_00306_0012C, 0x00069_00306_0012D, 0x00049_00328_0012E, 0x00069_00328_0012F,
    0x00049_00307_00130, 0x00049_0004A_00132, 0x00069_0006A_00133, 0x0004A_00302_00134,
    0x0006A_00302_00135, 0x0004B_00327_00136, 0x0006B_00327_00137, 0x0004C_00301_00139,
    0x0006C_00301_0013A, 0x0004C_00327_0013B, 0x0006C_00327_0013C, 0x0004C_0030C_0013D,
    0x0006C_0030C_0013E, 0x0004C_000B7_0013F, 0x0006C_000B7_00140, 0x0004E_00301_00143,
    0x0006E_00301_00144, 0x0004E_00327_00145, 0x0006E_00327_00146, 0x0004E_0030C_00147,
    0x0006E_0030C_00148, 0x002BC_0006E_00149, 0x0004F_00304_0014C, 0x0006F_00304_0014D,
    0x0004F_00306_0014E, 0x0006F_00306_0014F, 0x0004F_0030B_00150, 0x0006F_0030B_00151,
    0x00052_00301_00154, 0x00072_00301_00155, 0x00052_00327_00156, 0x00072_00327_00157,
    0x00052_0030C_00158, 0x00072_0030C_00159, 0x00053_00301_0015A, 0x00073_00301_0015B,
    0x00053_00302_0015C, 0x00073_00302_0015D, 0x00053_00327_0015E, 0x00073_00327_0015F,
    0x00053_0030C_00160, 0x00073_0030C_00161, 0x00054_00327_00162, 0x00074_00327_00163,
    0x00054_0030C_00164, 0x00074_0030C_00165, 0x00055_00303_00168, 0x00075_00303_00169,
    0x00055_00304_0016A, 0x00075_00304_0016B, 0x00055_00306_0016C, 0x00075_00306_0016D,
    0x00055_0030A_0016E, 0x00075_0030A_0016F, 0x00055_0030B_00170, 0x00075_0030B_00171,
    0x00055_00328_00172, 0x00075_00328_00173, 0x00057_00302_00174, 0x00077_00302_00175,
    0x00059_00302_00176, 0x00079_00302_00177, 0x00059_00308_00178, 0x0005A_00301_00179,
    0x0007A_00301_0017A, 0x0005A_00307_0017B, 0x0007A_00307_0017C, 0x0005A_0030C_0017D,
    0x0007A_0030C_0017E, 0x00073_0017F, 0x0004F_0031B_001A0, 0x0006F_0031B_001A1,
    0x00055_0031B_001AF, 0x00075_0031B_001B0, 0x00044_0005A_0030C_001C4, 0x00044_0007A_0030C_001C5,
    0x00064_0007A_0030C_001C6, 0x0004C_0004A_001C7, 0x0004C_0006A_001C8, 0x0006C_0006A_001C9,
    0x0004E_0004A_001CA, 0x0004E_0006A_001CB, 0x0006E_0006A_001CC, 0x00041_0030C_001CD,
    0x00061_0030C_001CE, 0x00049_0030C_001CF, 0x00069_0030C_001D0, 0x0004F_0030C_001D1,
    0x0006F_0030C_001D2, 0x00055_0030C_001D3, 0x00075_0030C_001D4, 0x00055_00308_00304_001D5,
    0x00075_00308_00304_001D6, 0x00055_00308_00301_001D7, 0x00075_00308_00301_001D8,
    0x00055_00308_0030C_001D9, 0x00075_00308_0030C_001DA, 0x00055_00308_00300_001DB,
    0x00075_00308_00300_001DC, 0x00041_00308_00304_001DE, 0x00061_00308_00304_001DF,
    0x00041_00307_00304_001E0, 0x00061_00307_00304_001E1, 0x000C6_00304_001E2, 0x000E6_00304_001E3,
    0x00047_0030C_001E6, 0x00067_0030C_001E7, 0x0004B_0030C_001E8, 0x0006B_0030C_001E9,
    0x0004F_00328_001EA, 0x0006F_00328_001EB, 0x0004F_00328_00304_001EC, 0x0006F_00328_00304_001ED,
    0x001B7_0030C_001EE, 0x00292_0030C_001EF, 0x0006A_0030C_001F0, 0x00044_0005A_001F1,
    0x00044_0007A_001F2, 0x00064_0007A_001F3, 0x00047_00301_001F4, 0x00067_00301_001F5,
    0x0004E_00300_001F8, 0x0006E_00300_001F9, 0x00041_0030A_00301_001FA, 0x00061_0030A_00301_001FB,
    0x000C6_00301_001FC, 0x000E6_00301_001FD, 0x000D8_00301_001FE, 0x000F8_00301_001FF]),
  (0x002, [0x00041_0030F_00200, 0x00061_0030F_00201, 0x00041_00311_00202, 0x00061_00311_00203,
    0x00045_0030F_00204, 0x00065_0030F_00205, 0x00045_00311_00206, 0x00065_00311_00207,
    0x00049_0030F_00208, 0x00069_0030F_00209, 0x00049_00311_0020A, 0x00069_00311_0020B,
    0x0004F_0030F_0020C, 0x0006F_0030F_0020D, 0x0004F_00311_0020E, 0x0006F_00311_0020F,
    0x00052_0030F_00210, 0x00072_0030F_00211, 0x00052_00311_00212, 0x00072_00311_00213,
    0x00055_0030F_00214, 0x00075_0030F_00215, 0x00055_00311_00216, 0x00075_00311_00217,
    0x00053_00326_00218, 0x00073_00326_00219, 0x00054_00326_0021A, 0x00074_00326_0021B,
    0x00048_0030C_0021E, 0x00068_0030C_0021F, 0x00041_00307_00226, 0x00061_00307_00227,
    0x00045_00327_00228, 0x00065_00327_00229, 0x0004F_00308_00304_0022A, 0x0006F_00308_00304_0022B,
    0x0004F_00303_00304_0022C, 0x0006F_00303_00304_0022D, 0x0004F_00307_0022E, 0x0006F_00307_0022F,
    0x0004F_00307_00304_00230, 0x0006F_00307_00304_00231, 0x00059_00304_00232, 0x00079_00304_00233,
    0x00068_002B0, 0x00266_002B1, 0x0006A_002B2, 0x00072_002B3, 0x00279_002B4, 0x0027B_002B5,
    0x00281_002B6, 0x00077_002B7, 0x00079_002B8, 0x00020_00306_002D8, 0x00020_00307_002D9,
    0x00020_0030A_002DA, 0x00020_00328_002DB, 0x00020_00303_002DC, 0x00020_0030B_002DD,
    0x00263_002E0, 0x0006C_002E1, 0x00073_002E2, 0x00078_002E3, 0x00295_002E4]),
  (0x003, [0x00300_00340, 0x00301_00341, 0x00313_00343, 0x00308_00301_00344, 0x002B9_00374,
    0x00020_00345_0037A, 0x0003B_0037E, 0x00020_00301_00384, 0x00020_00308_00301_00385,
    0x00391_00301_00386, 0x000B7_00387, 0x00395_00301_00388, 0x00397_00301_00389,
    0x00399_00301_0038A, 0x0039F_00301_0038C, 0x003A5_00301_0038E, 0x003A9_00301_0038F,
    0x003B9_00308_00301_00390, 0x00399_00308_003AA, 0x003A5_00308_003AB, 0x003B1_00301_003AC,
    0x003B5_00301_003AD, 0x003B7_00301_003AE, 0x003B9_00301_003AF, 0x003C5_00308_00301_003B0,
    0x003B9_00308_003CA, 0x003C5_00308_003CB, 0x003BF_00301_003CC, 0x003C5_00301_003CD,
    0x003C9_00301_003CE, 0x003B2_003D0, 0x003B8_003D1, 0x003A5_003D2, 0x003A5_00301_003D3,
    0x003A5_00308_003D4, 0x003C6_003D5, 0x003C0_003D6, 0x003BA_003F0, 0x003C1_003F1, 0x003C2_003F2,
    0x00398_003F4, 0x003B5_003F5, 0x003A3_003F9]),
  (0x004, [0x00415_00300_00400, 0x00415_00308_00401, 0x00413_00301_00403, 0x00406_00308_00407,
    0x0041A_00301_0040C, 0x00418_00300_0040D, 0x00423_00306_0040E, 0x00418_00306_00419,
    0x00438_00306_00439, 0x00435_00300_00450, 0x00435_00308_00451, 0x00433_00301_00453,
    0x00456_00308_00457, 0x0043A_00301_0045C, 0x00438_00300_0045D, 0x00443_00306_0045E,
    0x00474_0030F_00476, 0x00475_0030F_00477, 0x00416_00306_004C1, 0x00436_00306_004C2,
    0x00410_00306_004D0, 0x00430_00306_004D1, 0x00410_00308_004D2, 0x00430_00308_004D3,
    0x00415_00306_004D6, 0x00435_00306_004D7, 0x004D8_00308_004DA, 0x004D9_00308_004DB,
    0x00416_00308_004DC, 0x00436_00308_004DD, 0x00417_00308_004DE, 0x00437_00308_004DF,
    0x00418_00304_004E2, 0x00438_00304_004E3, 0x00418_00308_004E4, 0x00438_00308_004E5,
    0x0041E_00308_004E6, 0x0043E_00308_004E7, 0x004E8_00308_004EA, 0x004E9_00308_004EB,
    0x0042D_00308_004EC, 0x0044D_00308_004ED, 0x00423_00304_004EE, 0x00443_00304_004EF,
    0x00423_00308_004F0, 0x00443_00308_004F1, 0x00423_0030B_004F2, 0x00443_0030B_004F3,
    0x00427_00308_004F4, 0x00447_00308_004F5, 0x0042B_00308_004F8, 0x0044B_00308_004F9]),
  (0x005, [0x00565_00582_00587]),
  (0x006, [0x00627_00653_00622, 0x00627_00654_00623, 0x00648_00654_00624, 0x00627_00655_00625,
    0x0064A_00654_00626, 0x00627_00674_00675, 0x00648_00674_00676, 0x006C7_00674_00677,
    0x0064A_00674_00678, 0x006D5_00654_006C0, 0x006C1_00654_006C2, 0x006D2_00654_006D3]),
  (0x009, [0x00928_0093C_00929, 0x00930_0093C_00931, 0x00933_0093C_00934, 0x00915_0093C_00958,
    0x00916_0093C_00959, 0x00917_0093C_0095A, 0x0091C_0093C_0095B, 0x00921_0093C_0095C,
    0x00922_0093C_0095D, 0x0092B_0093C_0095E, 0x0092F_0093C_0095F, 0x009C7_009BE_009CB,
    0x009C7_009D7_009CC, 0x009A1_009BC_009DC, 0x009A2_009BC_009DD, 0x009AF_009BC_009DF]),
  (0x00A, [0x00A32_00A3C_00A33, 0x00A38_00A3C_00A36, 0x00A16_00A3C_00A59, 0x00A17_00A3C_00A5A,
    0x00A1C_00A3C_00A5B, 0x00A2B_00A3C_00A5E]),
  (0x00B, [0x00B47_00B56_00B48, 0x00B47_00B3E_00B4B, 0x00B47_00B57_00B4C, 0x00B21_00B3C_00B5C,
    0x00B22_00B3C_00B5D, 0x00B92_00BD7_00B94, 0x00BC6_00BBE_00BCA, 0x00BC7_00BBE_00BCB,
    0x00BC6_00BD7_00BCC]),
  (0x00C, [0x00C46_00C56_00C48, 0x00CBF_00CD5_00CC0, 0x00CC6_00CD5_00CC7, 0x00CC6_00CD6_00CC8,
    0x00CC6_00CC2_00CCA, 0x00CC6_00CC2_00CD5_00CCB]),
  (0x00D, [0x00D46_00D3E_00D4A, 0x00D47_00D3E_00D4B, 0x00D46_00D57_00D4C, 0x00DD9_00DCA_00DDA,
    0x00DD9_00DCF_00DDC, 0x00DD9_00DCF_00DCA_00DDD, 0x00DD9_00DDF_00DDE]),
  (0x00E, [0x00E4D_00E32_00E33, 0x00ECD_00EB2_00EB3, 0x00EAB_00E99_00EDC, 0x00EAB_00EA1_00EDD]),
  (0x00F, [0x00F0B_00F0C, 0x00F42_00FB7_00F43, 0x00F4C_00FB7_00F4D, 0x00F51_00FB7_00F52,
    0x00F56_00FB7_00F57, 0x00F5B_00FB7_00F5C, 0x00F40_00FB5_00F69, 0x00F71_00F72_00F73,
    0x00F71_00F74_00F75, 0x00FB2_00F80_00F76, 0x00FB2_00F71_00F80_00F77, 0x00FB3_00F80_00F78,
    0x00FB3_00F71_00F80_00F79, 0x00F71_00F80_00F81, 0x00F92_00FB7_00F93, 0x00F9C_00FB7_00F9D,
    0x00FA1_00FB7_00FA2, 0x00FA6_00FB7_00FA7, 0x00FAB_00FB7_00FAC, 0x00F90_00FB5_00FB9]),
  (0x010, [0x01025_0102E_01026, 0x010DC_010FC]),
  (0x01B, [0x01B05_01B35_01B06, 0x01B07_01B35_01B08, 0x01B09_01B35_01B0A, 0x01B0B_01B35_01B0C,
    0x01B0D_01B35_01B0E, 0x01B11_01B35_01B12, 0x01B3A_01B35_01B3B, 0x01B3C_01B35_01B3D,
    0x01B3E_01B35_01B40, 0x01B3F_01B35_01B41, 0x01B42_01B35_01B43]),
  (0x01D, [0x00041_01D2C, 0x000C6_01D2D, 0x00042_01D2E, 0x00044_01D30, 0x00045_01D31, 0x0018E_01D32,
    0x00047_01D33, 0x00048_01D34, 0x00049_01D35, 0x0004A_01D36, 0x0004B_01D37, 0x0004C_01D38,
    0x0004D_01D39, 0x0004E_01D3A, 0x0004F_01D3C, 0x00222_01D3D, 0x00050_01D3E, 0x00052_01D3F,
    0x00054_01D40, 0x00055_01D41, 0x00057_01D42, 0x00061_01D43, 0x00250_01D44, 0x00251_01D45,
    0x01D02_01D46, 0x00062_01D47, 0x00064_01D48, 0x00065_01D49, 0x00259_01D4A, 0x0025B_01D4B,
    0x0025C_01D4C, 0x00067_01D4D, 0x0006B_01D4F, 0x0006D_01D50, 0x0014B_01D51, 0x0006F_01D52,
    0x00254_01D53, 0x01D16_01D54, 0x01D17_01D55, 0x00070_01D56, 0x00074_01D57, 0x00075_01D58,
    0x01D1D_01D59, 0x0026F_01D5A, 0x00076_01D5B, 0x01D25_01D5C, 0x003B2_01D5D, 0x003B3_01D5E,
    0x003B4_01D5F, 0x003C6_01D60, 0x003C7_01D61, 0x00069_01D62, 0x00072_01D63, 0x00075_01D64,
    0x00076_01D65, 0x003B2_01D66, 0x003B3_01D67, 0x003C1_01D68, 0x003C6_01D69, 0x003C7_01D6A,
    0x0043D_01D78, 0x00252_01D9B, 0x00063_01D9C, 0x00255_01D9D, 0x000F0_01D9E, 0x0025C_01D9F,
    0x00066_01DA0, 0x0025F_01DA1, 0x00261_01DA2, 0x00265_01DA3, 0x00268_01DA4, 0x00269_01DA5,
    0x0026A_01DA6, 0x01D7B_01DA7, 0x0029D_01DA8, 0x0026D_01DA9, 0x01D85_01DAA, 0x0029F_01DAB,
    0x00271_01DAC, 0x00270_01DAD, 0x00272_01DAE, 0x00273_01DAF, 0x00274_01DB0, 0x00275_01DB1,
    0x00278_01DB2, 0x00282_01DB3, 0x00283_01DB4, 0x001AB_01DB5, 0x00289_01DB6, 0x0028A_01DB7,
    0x01D1C_01DB8, 0x0028B_01DB9, 0x0028C_01DBA, 0x0007A_01DBB, 0x00290_01DBC, 0x00291_01DBD,
    0x00292_01DBE, 0x003B8_01DBF]),
  (0x01E, [0x00041_00325_01E00, 0x00061_00325_01E01, 0x00042_00307_01E02, 0x00062_00307_01E03,
    0x00042_00323_01E04, 0x00062_00323_01E05, 0x00042_00331_01E06, 0x00062_00331_01E07,
    0x00043_00327_00301_01E08, 0x00063_00327_00301_01E09, 0x00044_00307_01E0A, 0x00064_00307_01E0B,
    0x00044_00323_01E0C, 0x00064_00323_01E0D, 0x00044_00331_01E0E, 0x00064_00331_01E0F,
    0x00044_00327_01E10, 0x00064_00327_01E11, 0x00044_0032D_01E12, 0x00064_0032D_01E13,
    0x00045_00304_00300_01E14, 0x00065_00304_00300_01E15, 0x00045_00304_00301_01E16,
    0x00065_00304_00301_01E17, 0x00045_0032D_01E18, 0x00065_0032D_01E19, 0x00045_00330_01E1A,
    0x00065_00330_01E1B, 0x00045_00327_00306_01E1C, 0x00065_00327_00306_01E1D, 0x00046_00307_01E1E,
    0x00066_00307_01E1F, 0x00047_00304_01E20, 0x00067_00304_01E21, 0x00048_00307_01E22,
    0x00068_00307_01E23, 0x00048_00323_01E24, 0x00068_00323_01E25, 0x00048_00308_01E26,
    0x00068_00308_01E27, 0x00048_00327_01E28, 0x00068_00327_01E29, 0x00048_0032E_01E2A,
    0x00068_0032E_01E2B, 0x00049_00330_01E2C, 0x00069_00330_01E2D, 0x00049_00308_00301_01E2E,
    0x00069_00308_00301_01E2F, 0x0004B_00301_01E30, 0x0006B_00301_01E31, 0x0004B_00323_01E32,
    0x0006B_00323_01E33, 0x0004B_00331_01E34, 0x0006B_00331_01E35, 0x0004C_00323_01E36,
    0x0006C_00323_01E37, 0x0004C_00323_00304_01E38, 0x0006C_00323_00304_01E39, 0x0004C_00331_01E3A,
    0x0006C_00331_01E3B, 0x0004C_0032D_01E3C, 0x0006C_0032D_01E3D, 0x0004D_00301_01E3E,
    0x0006D_00301_01E3F, 0x0004D_00307_01E40, 0x0006D_00307_01E41, 0x0004D_00323_01E42,
    0x0006D_00323_01E43, 0x0004E_00307_01E44, 0x0006E_00307_01E45, 0x0004E_00323_01E46,
    0x0006E_00323_01E47, 0x0004E_00331_01E48, 0x0006E_00331_01E49, 0x0004E_0032D_01E4A,
    0x0006E_0032D_01E4B, 0x0004F_00303_00301_01E4C, 0x0006F_00303_00301_01E4D,
    0x0004F_00303_00308_01E4E, 0x0006F_00303_00308_01E4F, 0x0004F_00304_00300_01E50,
    0x0006F_00304_00300_01E51, 0x0004F_00304_00301_01E52, 0x0006F_00304_00301_01E53,
    0x00050_00301_01E54, 0x00070_00301_01E55, 0x00050_00307_01E56, 0x00070_00307_01E57,
    0x00052_00307_01E58, 0x00072_00307_01E59, 0x00052_00323_01E5A, 0x00072_00323_01E5B,
    0x00052_00323_00304_01E5C, 0x00072_00323_00304_01E5D, 0x00052_00331_01E5E, 0x00072_00331_01E5F,
    0x00053_00307_01E60, 0x00073_00307_01E61, 0x00053_00323_01E62, 0x00073_00323_01E63,
    0x00053_00301_00307_01E64, 0x00073_00301_00307_01E65, 0x00053_0030C_00307_01E66,
    0x00073_0030C_00307_01E67, 0x00053_00323_00307_01E68, 0x00073_00323_00307_01E69,
    0x00054_00307_01E6A, 0x00074_00307_01E6B, 0x00054_00323_01E6C, 0x00074_00323_01E6D,
    0x00054_00331_01E6E, 0x00074_00331_01E6F, 0x00054_0032D_01E70, 0x00074_0032D_01E71,
    0x00055_00324_01E72, 0x00075_00324_01E73, 0x00055_00330_01E74, 0x00075_00330_01E75,
    0x00055_0032D_01E76, 0x00075_0032D_01E77, 0x00055_00303_00301_01E78, 0x00075_00303_00301_01E79,
    0x00055_00304_00308_01E7A, 0x00075_00304_00308_01E7B, 0x00056_00303_01E7C, 0x00076_00303_01E7D,
    0x00056_00323_01E7E, 0x00076_00323_01E7F, 0x00057_00300_01E80, 0x00077_00300_01E81,
    0x00057_00301_01E82, 0x00077_00301_01E83, 0x00057_00308_01E84, 0x00077_00308_01E85,
    0x00057_00307_01E86, 0x00077_00307_01E87, 0x00057_00323_01E88, 0x00077_00323_01E89,
    0x00058_00307_01E8A, 0x00078_00307_01E8B, 0x00058_00308_01E8C, 0x00078_00308_01E8D,
    0x00059_00307_01E8E, 0x00079_00307_01E8F, 0x0005A_00302_01E90, 0x0007A_00302_01E91,
    0x0005A_00323_01E92, 0x0007A_00323_01E93, 0x0005A_00331_01E94, 0x0007A_00331_01E95,
    0x00068_00331_01E96, 0x00074_00308_01E97, 0x00077_0030A_01E98, 0x00079_0030A_01E99,
    0x00061_002BE_01E9A, 0x00073_00307_01E9B, 0x00041_00323_01EA0, 0x00061_00323_01EA1,
    0x00041_00309_01EA2, 0x00061_00309_01EA3, 0x00041_00302_00301_01EA4, 0x00061_00302_00301_01EA5,
    0x00041_00302_00300_01EA6, 0x00061_00302_00300_01EA7, 0x00041_00302_00309_01EA8,
    0x00061_00302_00309_01EA9, 0x00041_00302_00303_01EAA, 0x00061_00302_00303_01EAB,
    0x00041_00323_00302_01EAC, 0x00061_00323_00302_01EAD, 0x00041_00306_00301_01EAE,
    0x00061_00306_00301_01EAF, 0x00041_00306_00300_01EB0, 0x00061_00306_00300_01EB1,
    0x00041_00306_00309_01EB2, 0x00061_00306_00309_01EB3, 0x00041_00306_00303_01EB4,
    0x00061_00306_00303_01EB5, 0x00041_00323_00306_01EB6, 0x00061_00323_00306_01EB7,
    0x00045_00323_01EB8, 0x00065_00323_01EB9, 0x00045_00309_01EBA, 0x00065_00309_01EBB,
    0x00045_00303_01EBC, 0x00065_00303_01EBD, 0x00045_00302_00301_01EBE, 0x00065_00302_00301_01EBF,
    0x00045_00302_00300_01EC0, 0x00065_00302_00300_01EC1, 0x00045_00302_00309_01EC2,
    0x00065_00302_00309_01EC3, 0x00045_00302_00303_01EC4, 0x00065_00302_00303_01EC5,
    0x00045_00323_00302_01EC6, 0x00065_00323_00302_01EC7, 0x00049_00309_01EC8, 0x00069_00309_01EC9,
    0x00049_00323_01ECA, 0x00069_00323_01ECB, 0x0004F_00323_01ECC, 0x0006F_00323_01ECD,
    0x0004F_00309_01ECE, 0x0006F_00309_01ECF, 0x0004F_00302_00301_01ED0, 0x0006F_00302_00301_01ED1,
    0x0004F_00302_00300_01ED2, 0x0006F_00302_00300_01ED3, 0x0004F_00302_00309_01ED4,
    0x0006F_00302_00309_01ED5, 0x0004F_00302_00303_01ED6, 0x0006F_00302_00303_01ED7,
    0x0004F_00323_00302_01ED8, 0x0006F_00323_00302_01ED9, 0x0004F_0031B_00301_01EDA,
    0x0006F_0031B_00301_01EDB, 0x0004F_0031B_00300_01EDC, 0x0006F_0031B_00300_01EDD,
    0x0004F_0031B_00309_01EDE, 0x0006F_0031B_00309_01EDF, 0x0004F_0031B_00303_01EE0,
    0x0006F_0031B_00303_01EE1, 0x0004F_0031B_00323_01EE2, 0x0006F_0031B_00323_01EE3,
    0x00055_00323_01EE4, 0x00075_00323_01EE5, 0x00055_00309_01EE6, 0x00075_00309_01EE7,
    0x00055_0031B_00301_01EE8, 0x00075_0031B_00301_01EE9, 0x00055_0031B_00300_01EEA,
    0x00075_0031B_00300_01EEB, 0x00055_0031B_00309_01EEC, 0x00075_0031B_00309_01EED,
    0x00055_0031B_00303_01EEE, 0x00075_0031B_00303_01EEF, 0x00055_0031B_00323_01EF0,
    0x00075_0031B_00323_01EF1, 0x00059_00300_01EF2, 0x00079_00300_01EF3, 0x00059_00323_01EF4,
    0x00079_00323_01EF5, 0x00059_00309_01EF6, 0x00079_00309_01EF7, 0x00059_00303_01EF8,
    0x00079_00303_01EF9]),
  (0x01F, [
    0x003B1_00313_01F00, 0x003B1_00314_01F01, 0x003B1_00313_00300_01F02, 0x003B1_00314_00300_01F03,
    0x003B1_00313_00301_01F04, 0x003B1_00314_00301_01F05, 0x003B1_00313_00342_01F06,
    0x003B1_00314_00342_01F07, 0x00391_00313_01F08, 0x00391_00314_01F09, 0x00391_00313_00300_01F0A,
    0x00391_00314_00300_01F0B, 0x00391_00313_00301_01F0C, 0x00391_00314_00301_01F0D,
    0x00391_00313_00342_01F0E, 0x00391_00314_00342_01F0F, 0x003B5_00313_01F10, 0x003B5_00314_01F11,
    0x003B5_00313_00300_01F12, 0x003B5_00314_00300_01F13, 0x003B5_00313_00301_01F14,
    0x003B5_00314_00301_01F15, 0x00395_00313_01F18, 0x00395_00314_01F19, 0x00395_00313_00300_01F1A,
    0x00395_00314_00300_01F1B, 0x00395_00313_00301_01F1C, 0x00395_00314_00301_01F1D,
    0x003B7_00313_01F20, 0x003B7_00314_01F21, 0x003B7_00313_00300_01F22, 0x003B7_00314_00300_01F23,
    0x003B7_00313_00301_01F24, 0x003B7_00314_00301_01F25, 0x003B7_00313_00342_01F26,
    0x003B7_00314_00342_01F27, 0x00397_00313_01F28, 0x00397_00314_01F29, 0x00397_00313_00300_01F2A,
    0x00397_00314_00300_01F2B, 0x00397_00313_00301_01F2C, 0x00397_00314_00301_01F2D,
    0x00397_00313_00342_01F2E, 0x00397_00314_00342_01F2F, 0x003B9_00313_01F30, 0x003B9_00314_01F31,
    0x003B9_00313_00300_01F32, 0x003B9_00314_00300_01F33, 0x003B9_00313_00301_01F34,
    0x003B9_00314_00301_01F35, 0x003B9_00313_00342_01F36, 0x003B9_00314_00342_01F37,
    0x00399_00313_01F38, 0x00399_00314_01F39, 0x00399_00313_00300_01F3A, 0x00399_00314_00300_01F3B,
    0x00399_00313_00301_01F3C, 0x00399_00314_00301_01F3D, 0x00399_00313_00342_01F3E,
    0x00399_00314_00342_01F3F, 0x003BF_00313_01F40, 0x003BF_00314_01F41, 0x003BF_00313_00300_01F42,
    0x003BF_00314_00300_01F43, 0x003BF_00313_00301_01F44, 0x003BF_00314_00301_01F45,
    0x0039F_00313_01F48, 0x0039F_00314_01F49, 0x0039F_00313_00300_01F4A, 0x0039F_00314_00300_01F4B,
    0x0039F_00313_00301_01F4C, 0x0039F_00314_00301_01F4D, 0x003C5_00313_01F50, 0x003C5_00314_01F51,
    0x003C5_00313_00300_01F52, 0x003C5_00314_00300_01F53, 0x003C5_00313_00301_01F54,
    0x003C5_00314_00301_01F55, 0x003C5_00313_00342_01F56, 0x003C5_00314_00342_01F57,
    0x003A5_00314_01F59, 0x003A5_00314_00300_01F5B, 0x003A5_00314_00301_01F5D,
    0x003A5_00314_00342_01F5F, 0x003C9_00313_01F60, 0x003C9_00314_01F61, 0x003C9_00313_00300_01F62,
    0x003C9_00314_00300_01F63, 0x003C9_00313_00301_01F64, 0x003C9_00314_00301_01F65,
    0x003C9_00313_00342_01F66, 0x003C9_00314_00342_01F67, 0x003A9_00313_01F68, 0x003A9_00314_01F69,
    0x003A9_00313_00300_01F6A, 0x003A9_00314_00300_01F6B, 0x003A9_00313_00301_01F6C,
    0x003A9_00314_00301_01F6D, 0x003A9_00313_00342_01F6E, 0x003A9_00314_00342_01F6F,
    0x003B1_00300_01F70, 0x003B1_00301_01F71, 0x003B5_00300_01F72, 0x003B5_00301_01F73,
    0x003B7_00300_01F74, 0x003B7_00301_01F75, 0x003B9_00300_01F76, 0x003B9_00301_01F77,
    0x003BF_00300_01F78, 0x003BF_00301_01F79, 0x003C5_00300_01F7A, 0x003C5_00301_01F7B,
    0x003C9_00300_01F7C, 0x003C9_00301_01F7D, 0x003B1_00313_00345_01F80, 0x003B1_00314_00345_01F81,
    0x003B1_00313_00300_00345_01F82, 0x003B1_00314_00300_00345_01F83,
    0x003B1_00313_00301_00345_01F84, 0x003B1_00314_00301_00345_01F85,
    0x003B1_00313_00342_00345_01F86, 0x003B1_00314_00342_00345_01F87, 0x00391_00313_00345_01F88,
    0x00391_00314_00345_01F89, 0x00391_00313_00300_00345_01F8A, 0x00391_00314_00300_00345_01F8B,
    0x00391_00313_00301_00345_01F8C, 0x00391_00314_00301_00345_01F8D,
    0x00391_00313_00342_00345_01F8E, 0x00391_00314_00342_00345_01F8F, 0x003B7_00313_00345_01F90,
    0x003B7_00314_00345_01F91, 0x003B7_00313_00300_00345_01F92, 0x003B7_00314_00300_00345_01F93,
    0x003B7_00313_00301_00345_01F94, 0x003B7_00314_00301_00345_01F95,
    0x003B7_00313_00342_00345_01F96, 0x003B7_00314_00342_00345_01F97, 0x00397_00313_00345_01F98,
    0x00397_00314_00345_01F99, 0x00397_00313_00300_00345_01F9A, 0x00397_00314_00300_00345_01F9B,
    0x00397_00313_00301_00345_01F9C, 0x00397_00314_00301_00345_01F9D,
    0x00397_00313_00342_00345_01F9E, 0x00397_00314_00342_00345_01F9F, 0x003C9_00313_00345_01FA0,
    0x003C9_00314_00345_01FA1, 0x003C9_00313_00300_00345_01FA2, 0x003C9_00314_00300_00345_01FA3,
    0x003C9_00313_00301_00345_01FA4, 0x003C9_00314_00301_00345_01FA5,
    0x003C9_00313_00342_00345_01FA6, 0x003C9_00314_00342_00345_01FA7, 0x003A9_00313_00345_01FA8,
    0x003A9_00314_00345_01FA9, 0x003A9_00313_00300_00345_01FAA, 0x003A9_00314_00300_00345_01FAB,
    0x003A9_00313_00301_00345_01FAC, 0x003A9_00314_00301_00345_01FAD,
    0x003A9_00313_00342_00345_01FAE, 0x003A9_00314_00342_00345_01FAF, 0x003B1_00306_01FB0,
    0x003B1_00304_01FB1, 0x003B1_00300_00345_01FB2, 0x003B1_00345_01FB3, 0x003B1_00301_00345_01FB4,
    0x003B1_00342_01FB6, 0x003B1_00342_00345_01FB7, 0x00391_00306_01FB8, 0x00391_00304_01FB9,
    0x00391_00300_01FBA, 0x00391_00301_01FBB, 0x00391_00345_01FBC, 0x00020_00313_01FBD,
    0x003B9_01FBE, 0x00020_00313_01FBF, 0x00020_00342_01FC0, 0x00020_00308_00342_01FC1,
    0x003B7_00300_00345_01FC2, 0x003B7_00345_01FC3, 0x003B7_00301_00345_01FC4, 0x003B7_00342_01FC6,
    0x003B7_00342_00345_01FC7, 0x00395_00300_01FC8, 0x00395_00301_01FC9, 0x00397_00300_01FCA,
    0x00397_00301_01FCB, 0x00397_00345_01FCC, 0x00020_00313_00300_01FCD, 0x00020_00313_00301_01FCE,
    0x00020_00313_00342_01FCF, 0x003B9_00306_01FD0, 0x003B9_00304_01FD1, 0x003B9_00308_00300_01FD2,
    0x003B9_00308_00301_01FD3, 0x003B9_00342_01FD6, 0x003B9_00308_00342_01FD7, 0x00399_00306_01FD8,
    0x00399_00304_01FD9, 0x00399_00300_01FDA, 0x00399_00301_01FDB, 0x00020_00314_00300_01FDD,
    0x00020_00314_00301_01FDE, 0x00020_00314_00342_01FDF, 0x003C5_00306_01FE0, 0x003C5_00304_01FE1,
    0x003C5_00308_00300_01FE2, 0x003C5_00308_00301_01FE3, 0x003C1_00313_01FE4, 0x003C1_00314_01FE5,
    0x003C5_00342_01FE6, 0x003C5_00308_00342_01FE7, 0x003A5_00306_01FE8, 0x003A5_00304_01FE9,
    0x003A5_00300_01FEA, 0x003A5_00301_01FEB, 0x003A1_00314_01FEC, 0x00020_00308_00300_01FED,
    0x00020_00308_00301_01FEE, 0x00060_01FEF, 0x003C9_00300_00345_01FF2, 0x003C9_00345_01FF3,
    0x003C9_00301_00345_01FF4, 0x003C9_00342_01FF6, 0x003C9_00342_00345_01FF7, 0x0039F_00300_01FF8,
    0x0039F_00301_01FF9, 0x003A9_00300_01FFA, 0x003A9_00301_01FFB, 0x003A9_00345_01FFC,
    0x00020_00301_01FFD, 0x00020_00314_01FFE]),
  (0x020, [0x00020_02000, 0x00020_02001, 0x00020_02002, 0x00020_02003, 0x00020_02004, 0x00020_02005,
    0x00020_02006, 0x00020_02007, 0x00020_02008, 0x00020_02009, 0x00020_0200A, 0x02010_02011,
    0x00020_00333_02017, 0x0002E_02024, 0x0002E_0002E_02025, 0x0002E_0002E_0002E_02026,
    0x00020_0202F, 0x02032_02032_02033, 0x02032_02032_02032_02034, 0x02035_02035_02036,
    0x02035_02035_02035_02037, 0x00021_00021_0203C, 0x00020_00305_0203E, 0x0003F_0003F_02047,
    0x0003F_00021_02048, 0x00021_0003F_02049, 0x02032_02032_02032_02032_02057, 0x00020_0205F,
    0x00030_02070, 0x00069_02071, 0x00034_02074, 0x00035_02075, 0x00036_02076, 0x00037_02077,
    0x00038_02078, 0x00039_02079, 0x0002B_0207A, 0x02212_0207B, 0x0003D_0207C, 0x00028_0207D,
    0x00029_0207E, 0x0006E_0207F, 0x00030_02080, 0x00031_02081, 0x00032_02082, 0x00033_02083,
    0x00034_02084, 0x00035_02085, 0x00036_02086, 0x00037_02087, 0x00038_02088, 0x00039_02089,
    0x0002B_0208A, 0x02212_0208B, 0x0003D_0208C, 0x00028_0208D, 0x00029_0208E, 0x00061_02090,
    0x00065_02091, 0x0006F_02092, 0x00078_02093, 0x00259_02094, 0x00068_02095, 0x0006B_02096,
    0x0006C_02097, 0x0006D_02098, 0x0006E_02099, 0x00070_0209A, 0x00073_0209B, 0x00074_0209C,
    0x00052_00073_020A8]),
  (0x021, [0x00061_0002F_00063_02100, 0x00061_0002F_00073_02101, 0x00043_02102, 0x000B0_00043_02103,
    0x00063_0002F_0006F_02105, 0x00063_0002F_00075_02106, 0x00190_02107, 0x000B0_00046_02109,
    0x00067_0210A, 0x00048_0210B, 0x00048_0210C, 0x00048_0210D, 0x00068_0210E, 0x00127_0210F,
    0x00049_02110, 0x00049_02111, 0x0004C_02112, 0x0006C_02113, 0x0004E_02115, 0x0004E_0006F_02116,
    0x00050_02119, 0x00051_0211A, 0x00052_0211B, 0x00052_0211C, 0x00052_0211D, 0x00053_0004D_02120,
    0x00054_00045_0004C_02121, 0x00054_0004D_02122, 0x0005A_02124, 0x003A9_02126, 0x0005A_02128,
    0x0004B_0212A, 0x00041_0030A_0212B, 0x00042_0212C, 0x00043_0212D, 0x00065_0212F, 0x00045_02130,
    0x00046_02131, 0x0004D_02133, 0x0006F_02134, 0x005D0_02135, 0x005D1_02136, 0x005D2_02137,
    0x005D3_02138, 0x00069_02139, 0x00046_00041_00058_0213B, 0x003C0_0213C, 0x003B3_0213D,
    0x00393_0213E, 0x003A0_0213F, 0x02211_02140, 0x00044_02145, 0x00064_02146, 0x00065_02147,
    0x00069_02148, 0x0006A_02149, 0x00031_02044_00037_02150, 0x00031_02044_00039_02151,
    0x00031_02044_00031_00030_02152, 0x00031_02044_00033_02153, 0x00032_02044_00033_02154,
    0x00031_02044_00035_02155, 0x00032_02044_00035_02156, 0x00033_02044_00035_02157,
    0x00034_02044_00035_02158, 0x00031_02044_00036_02159, 0x00035_02044_00036_0215A,
    0x00031_02044_00038_0215B, 0x00033_02044_00038_0215C, 0x00035_02044_00038_0215D,
    0x00037_02044_00038_0215E, 0x00031_02044_0215F, 0x00049_02160, 0x00049_00049_02161,
    0x00049_00049_00049_02162, 0x00049_00056_02163, 0x00056_02164, 0x00056_00049_02165,
    0x00056_00049_00049_02166, 0x00056_00049_00049_00049_02167, 0x00049_00058_02168, 0x00058_02169,
    0x00058_00049_0216A, 0x00058_00049_00049_0216B, 0x0004C_0216C, 0x00043_0216D, 0x00044_0216E,
    0x0004D_0216F, 0x00069_02170, 0x00069_00069_02171, 0x00069_00069_00069_02172,
    0x00069_00076_02173, 0x00076_02174, 0x00076_00069_02175, 0x00076_00069_00069_02176,
    0x00076_00069_00069_00069_02177, 0x00069_00078_02178, 0x00078_02179, 0x00078_00069_0217A,
    0x00078_00069_00069_0217B, 0x0006C_0217C, 0x00063_0217D, 0x00064_0217E, 0x0006D_0217F,
    0x00030_02044_00033_02189, 0x02190_00338_0219A, 0x02192_00338_0219B, 0x02194_00338_021AE,
    0x021D0_00338_021CD, 0x021D4_00338_021CE, 0x021D2_00338_021CF]),
  (0x022, [0x02203_00338_02204, 0x02208_00338_02209, 0x0220B_00338_0220C, 0x02223_00338_02224,
    0x02225_00338_02226, 0x0222B_0222B_0222C, 0x0222B_0222B_0222B_0222D, 0x0222E_0222E_0222F,
    0x0222E_0222E_0222E_02230, 0x0223C_00338_02241, 0x02243_00338_02244, 0x02245_00338_02247,
    0x02248_00338_02249, 0x0003D_00338_02260, 0x02261_00338_02262, 0x0224D_00338_0226D,
    0x0003C_00338_0226E, 0x0003E_00338_0226F, 0x02264_00338_02270, 0x02265_00338_02271,
    0x02272_00338_02274, 0x02273_00338_02275, 0x02276_00338_02278, 0x02277_00338_02279,
    0x0227A_00338_02280, 0x0227B_00338_02281, 0x02282_00338_02284, 0x02283_00338_02285,
    0x02286_00338_02288, 0x02287_00338_02289, 0x022A2_00338_022AC, 0x022A8_00338_022AD,
    0x022A9_00338_022AE, 0x022AB_00338_022AF, 0x0227C_00338_022E0, 0x0227D_00338_022E1,
    0x02291_00338_022E2, 0x02292_00338_022E3, 0x022B2_00338_022EA, 0x022B3_00338_022EB,
    0x022B4_00338_022EC, 0x022B5_00338_022ED]),
  (0x023, [0x03008_02329, 0x03009_0232A]),
  (0x024, [0x00031_02460, 0x00032_02461, 0x00033_02462, 0x00034_02463, 0x00035_02464, 0x00036_02465,
    0x00037_02466, 0x00038_02467, 0x00039_02468, 0x00031_00030_02469, 0x00031_00031_0246A,
    0x00031_00032_0246B, 0x00031_00033_0246C, 0x00031_00034_0246D, 0x00031_00035_0246E,
    0x00031_00036_0246F, 0x00031_00037_02470, 0x00031_00038_02471, 0x00031_00039_02472,
    0x00032_00030_02473, 0x00028_00031_00029_02474, 0x00028_00032_00029_02475,
    0x00028_00033_00029_02476, 0x00028_00034_00029_02477, 0x00028_00035_00029_02478,
    0x00028_00036_00029_02479, 0x00028_00037_00029_0247A, 0x00028_00038_00029_0247B,
    0x00028_00039_00029_0247C, 0x00028_00031_00030_00029_0247D, 0x00028_00031_00031_00029_0247E,
    0x00028_00031_00032_00029_0247F, 0x00028_00031_00033_00029_02480,
    0x00028_00031_00034_00029_02481, 0x00028_00031_00035_00029_02482,
    0x00028_00031_00036_00029_02483, 0x00028_00031_00037_00029_02484,
    0x00028_00031_00038_00029_02485, 0x00028_00031_00039_00029_02486,
    0x00028_00032_00030_00029_02487, 0x00031_0002E_02488, 0x00032_0002E_02489, 0x00033_0002E_0248A,
    0x00034_0002E_0248B, 0x00035_0002E_0248C, 0x00036_0002E_0248D, 0x00037_0002E_0248E,
    0x00038_0002E_0248F, 0x00039_0002E_02490, 0x00031_00030_0002E_02491, 0x00031_00031_0002E_02492,
    0x00031_00032_0002E_02493, 0x00031_00033_0002E_02494, 0x00031_00034_0002E_02495,
    0x00031_00035_0002E_02496, 0x00031_00036_0002E_02497, 0x00031_00037_0002E_02498,
    0x00031_00038_0002E_02499, 0x00031_00039_0002E_0249A, 0x00032_00030_0002E_0249B,
    0x00028_00061_00029_0249C, 0x00028_00062_00029_0249D, 0x00028_00063_00029_0249E,
    0x00028_00064_00029_0249F, 0x00028_00065_00029_024A0, 0x00028_00066_00029_024A1,
    0x00028_00067_00029_024A2, 0x00028_00068_00029_024A3, 0x00028_00069_00029_024A4,
    0x00028_0006A_00029_024A5, 0x00028_0006B_00029_024A6, 0x00028_0006C_00029_024A7,
    0x00028_0006D_00029_024A8, 0x00028_0006E_00029_024A9, 0x00028_0006F_00029_024AA,
    0x00028_00070_00029_024AB, 0x00028_00071_00029_024AC, 0x00028_00072_00029_024AD,
    0x00028_00073_00029_024AE, 0x00028_00074_00029_024AF, 0x00028_00075_00029_024B0,
    0x00028_00076_00029_024B1, 0x00028_00077_00029_024B2, 0x00028_00078_00029_024B3,
    0x00028_00079_00029_024B4, 0x00028_0007A_00029_024B5, 0x00041_024B6, 0x00042_024B7,
    0x00043_024B8, 0x00044_024B9, 0x00045_024BA, 0x00046_024BB, 0x00047_024BC, 0x00048_024BD,
    0x00049_024BE, 0x0004A_024BF, 0x0004B_024C0, 0x0004C_024C1, 0x0004D_024C2, 0x0004E_024C3,
    0x0004F_024C4, 0x00050_024C5, 0x00051_024C6, 0x00052_024C7, 0x00053_024C8, 0x00054_024C9,
    0x00055_024CA, 0x00056_024CB, 0x00057_024CC, 0x00058_024CD, 0x00059_024CE, 0x0005A_024CF,
    0x00061_024D0, 0x00062_024D1, 0x00063_024D2, 0x00064_024D3, 0x00065_024D4, 0x00066_024D5,
    0x00067_024D6, 0x00068_024D7, 0x00069_024D8, 0x0006A_024D9, 0x0006B_024DA, 0x0006C_024DB,
    0x0006D_024DC, 0x0006E_024DD, 0x0006F_024DE, 0x00070_024DF, 0x00071_024E0, 0x00072_024E1,
    0x00073_024E2, 0x00074_024E3, 0x00075_024E4, 0x00076_024E5, 0x00077_024E6, 0x00078_024E7,
    0x00079_024E8, 0x0007A_024E9, 0x00030_024EA]),
  (0x02A, [0x0222B_0222B_0222B_0222B_02A0C, 0x0003A_0003A_0003D_02A74, 0x0003D_0003D_02A75,
    0x0003D_0003D_0003D_02A76, 0x02ADD_00338_02ADC]),
  (0x02C, [0x0006A_02C7C, 0x00056_02C7D]),
  (0x02D, [0x02D61_02D6F]),
  (0x02E, [0x06BCD_02E9F, 0x09F9F_02EF3]),
  (0x02F, [0x04E00_02F00, 0x04E28_02F01, 0x04E36_02F02, 0x04E3F_02F03, 0x04E59_02F04, 0x04E85_02F05,
    0x04E8C_02F06, 0x04EA0_02F07, 0x04EBA_02F08, 0x0513F_02F09, 0x05165_02F0A, 0x0516B_02F0B,
    0x05182_02F0C, 0x05196_02F0D, 0x051AB_02F0E, 0x051E0_02F0F, 0x051F5_02F10, 0x05200_02F11,
    0x0529B_02F12, 0x052F9_02F13, 0x05315_02F14, 0x0531A_02F15, 0x05338_02F16, 0x05341_02F17,
    0x0535C_02F18, 0x05369_02F19, 0x05382_02F1A, 0x053B6_02F1B, 0x053C8_02F1C, 0x053E3_02F1D,
    0x056D7_02F1E, 0x0571F_02F1F, 0x058EB_02F20, 0x05902_02F21, 0x0590A_02F22, 0x05915_02F23,
    0x05927_02F24, 0x05973_02F25, 0x05B50_02F26, 0x05B80_02F27, 0x05BF8_02F28, 0x05C0F_02F29,
    0x05C22_02F2A, 0x05C38_02F2B, 0x05C6E_02F2C, 0x05C71_02F2D, 0x05DDB_02F2E, 0x05DE5_02F2F,
    0x05DF1_02F30, 0x05DFE_02F31, 0x05E72_02F32, 0x05E7A_02F33, 0x05E7F_02F34, 0x05EF4_02F35,
    0x05EFE_02F36, 0x05F0B_02F37, 0x05F13_02F38, 0x05F50_02F39, 0x05F61_02F3A, 0x05F73_02F3B,
    0x05FC3_02F3C, 0x06208_02F3D, 0x06236_02F3E, 0x0624B_02F3F, 0x0652F_02F40, 0x06534_02F41,
    0x06587_02F42, 0x06597_02F43, 0x065A4_02F44, 0x065B9_02F45, 0x065E0_02F46, 0x065E5_02F47,
    0x066F0_02F48, 0x06708_02F49, 0x06728_02F4A, 0x06B20_02F4B, 0x06B62_02F4C, 0x06B79_02F4D,
    0x06BB3_02F4E, 0x06BCB_02F4F, 0x06BD4_02F50, 0x06BDB_02F51, 0x06C0F_02F52, 0x06C14_02F53,
    0x06C34_02F54, 0x0706B_02F55, 0x0722A_02F56, 0x07236_02F57, 0x0723B_02F58, 0x0723F_02F59,
    0x07247_02F5A, 0x07259_02F5B, 0x0725B_02F5C, 0x072AC_02F5D, 0x07384_02F5E, 0x07389_02F5F,
    0x074DC_02F60, 0x074E6_02F61, 0x07518_02F62, 0x0751F_02F63, 0x07528_02F64, 0x07530_02F65,
    0x0758B_02F66, 0x07592_02F67, 0x07676_02F68, 0x0767D_02F69, 0x076AE_02F6A, 0x076BF_02F6B,
    0x076EE_02F6C, 0x077DB_02F6D, 0x077E2_02F6E, 0x077F3_02F6F, 0x0793A_02F70, 0x079B8_02F71,
    0x079BE_02F72, 0x07A74_02F73, 0x07ACB_02F74, 0x07AF9_02F75, 0x07C73_02F76, 0x07CF8_02F77,
    0x07F36_02F78, 0x07F51_02F79, 0x07F8A_02F7A, 0x07FBD_02F7B, 0x08001_02F7C, 0x0800C_02F7D,
    0x08012_02F7E, 0x08033_02F7F, 0x0807F_02F80, 0x08089_02F81, 0x081E3_02F82, 0x081EA_02F83,
    0x081F3_02F84, 0x081FC_02F85, 0x0820C_02F86, 0x0821B_02F87, 0x0821F_02F88, 0x0826E_02F89,
    0x08272_02F8A, 0x08278_02F8B, 0x0864D_02F8C, 0x0866B_02F8D, 0x08840_02F8E, 0x0884C_02F8F,
    0x08863_02F90, 0x0897E_02F91, 0x0898B_02F92, 0x089D2_02F93, 0x08A00_02F94, 0x08C37_02F95,
    0x08C46_02F96, 0x08C55_02F97, 0x08C78_02F98, 0x08C9D_02F99, 0x08D64_02F9A, 0x08D70_02F9B,
    0x08DB3_02F9C, 0x08EAB_02F9D, 0x08ECA_02F9E, 0x08F9B_02F9F, 0x08FB0_02FA0, 0x08FB5_02FA1,
    0x09091_02FA2, 0x09149_02FA3, 0x091C6_02FA4, 0x091CC_02FA5, 0x091D1_02FA6, 0x09577_02FA7,
    0x09580_02FA8, 0x0961C_02FA9, 0x096B6_02FAA, 0x096B9_02FAB, 0x096E8_02FAC, 0x09751_02FAD,
    0x0975E_02FAE, 0x09762_02FAF, 0x09769_02FB0, 0x097CB_02FB1, 0x097ED_02FB2, 0x097F3_02FB3,
    0x09801_02FB4, 0x098A8_02FB5, 0x098DB_02FB6, 0x098DF_02FB7, 0x09996_02FB8, 0x09999_02FB9,
    0x099AC_02FBA, 0x09AA8_02FBB, 0x09AD8_02FBC, 0x09ADF_02FBD, 0x09B25_02FBE, 0x09B2F_02FBF,
    0x09B32_02FC0, 0x09B3C_02FC1, 0x09B5A_02FC2, 0x09CE5_02FC3, 0x09E75_02FC4, 0x09E7F_02FC5,
    0x09EA5_02FC6, 0x09EBB_02FC7, 0x09EC3_02FC8, 0x09ECD_02FC9, 0x09ED1_02FCA, 0x09EF9_02FCB,
    0x09EFD_02FCC, 0x09F0E_02FCD, 0x09F13_02FCE, 0x09F20_02FCF, 0x09F3B_02FD0, 0x09F4A_02FD1,
    0x09F52_02FD2, 0x09F8D_02FD3, 0x09F9C_02FD4, 0x09FA0_02FD5]),
  (0x030, [
    0x00020_03000, 0x03012_03036, 0x05341_03038, 0x05344_03039, 0x05345_0303A, 0x0304B_03099_0304C,
    0x0304D_03099_0304E, 0x0304F_03099_03050, 0x03051_03099_03052, 0x03053_03099_03054,
    0x03055_03099_03056, 0x03057_03099_03058, 0x03059_03099_0305A, 0x0305B_03099_0305C,
    0x0305D_03099_0305E, 0x0305F_03099_03060, 0x03061_03099_03062, 0x03064_03099_03065,
    0x03066_03099_03067, 0x03068_03099_03069, 0x0306F_03099_03070, 0x0306F_0309A_03071,
    0x03072_03099_03073, 0x03072_0309A_03074, 0x03075_03099_03076, 0x03075_0309A_03077,
    0x03078_03099_03079, 0x03078_0309A_0307A, 0x0307B_03099_0307C, 0x0307B_0309A_0307D,
    0x03046_03099_03094, 0x00020_03099_0309B, 0x00020_0309A_0309C, 0x0309D_03099_0309E,
    0x03088_0308A_0309F, 0x030AB_03099_030AC, 0x030AD_03099_030AE, 0x030AF_03099_030B0,
    0x030B1_03099_030B2, 0x030B3_03099_030B4, 0x030B5_03099_030B6, 0x030B7_03099_030B8,
    0x030B9_03099_030BA, 0x030BB_03099_030BC, 0x030BD_03099_030BE, 0x030BF_03099_030C0,
    0x030C1_03099_030C2, 0x030C4_03099_030C5, 0x030C6_03099_030C7, 0x030C8_03099_030C9,
    0x030CF_03099_030D0, 0x030CF_0309A_030D1, 0x030D2_03099_030D3, 0x030D2_0309A_030D4,
    0x030D5_03099_030D6, 0x030D5_0309A_030D7, 0x030D8_03099_030D9, 0x030D8_0309A_030DA,
    0x030DB_03099_030DC, 0x030DB_0309A_030DD, 0x030A6_03099_030F4, 0x030EF_03099_030F7,
    0x030F0_03099_030F8, 0x030F1_03099_030F9, 0x030F2_03099_030FA, 0x030FD_03099_030FE,
    0x030B3_030C8_030FF]),
  (0x031, [0x01100_03131, 0x01101_03132, 0x011AA_03133, 0x01102_03134, 0x011AC_03135, 0x011AD_03136,
    0x01103_03137, 0x01104_03138, 0x01105_03139, 0x011B0_0313A, 0x011B1_0313B, 0x011B2_0313C,
    0x011B3_0313D, 0x011B4_0313E, 0x011B5_0313F, 0x0111A_03140, 0x01106_03141, 0x01107_03142,
    0x01108_03143, 0x01121_03144, 0x01109_03145, 0x0110A_03146, 0x0110B_03147, 0x0110C_03148,
    0x0110D_03149, 0x0110E_0314A, 0x0110F_0314B, 0x01110_0314C, 0x01111_0314D, 0x01112_0314E,
    0x01161_0314F, 0x01162_03150, 0x01163_03151, 0x01164_03152, 0x01165_03153, 0x01166_03154,
    0x01167_03155, 0x01168_03156, 0x01169_03157, 0x0116A_03158, 0x0116B_03159, 0x0116C_0315A,
    0x0116D_0315B, 0x0116E_0315C, 0x0116F_0315D, 0x01170_0315E, 0x01171_0315F, 0x01172_03160,
    0x01173_03161, 0x01174_03162, 0x01175_03163, 0x01160_03164, 0x01114_03165, 0x01115_03166,
    0x011C7_03167, 0x011C8_03168, 0x011CC_03169, 0x011CE_0316A, 0x011D3_0316B, 0x011D7_0316C,
    0x011D9_0316D, 0x0111C_0316E, 0x011DD_0316F, 0x011DF_03170, 0x0111D_03171, 0x0111E_03172,
    0x01120_03173, 0x01122_03174, 0x01123_03175, 0x01127_03176, 0x01129_03177, 0x0112B_03178,
    0x0112C_03179, 0x0112D_0317A, 0x0112E_0317B, 0x0112F_0317C, 0x01132_0317D, 0x01136_0317E,
    0x01140_0317F, 0x01147_03180, 0x0114C_03181, 0x011F1_03182, 0x011F2_03183, 0x01157_03184,
    0x01158_03185, 0x01159_03186, 0x01184_03187, 0x01185_03188, 0x01188_03189, 0x01191_0318A,
    0x01192_0318B, 0x01194_0318C, 0x0119E_0318D, 0x011A1_0318E, 0x04E00_03192, 0x04E8C_03193,
    0x04E09_03194, 0x056DB_03195, 0x04E0A_03196, 0x04E2D_03197, 0x04E0B_03198, 0x07532_03199,
    0x04E59_0319A, 0x04E19_0319B, 0x04E01_0319C, 0x05929_0319D, 0x05730_0319E, 0x04EBA_0319F]),
  (0x032, [0x00028_01100_00029_03200, 0x00028_01102_00029_03201, 0x00028_01103_00029_03202,
    0x00028_01105_00029_03203, 0x00028_01106_00029_03204, 0x00028_01107_00029_03205,
    0x00028_01109_00029_03206, 0x00028_0110B_00029_03207, 0x00028_0110C_00029_03208,
    0x00028_0110E_00029_03209, 0x00028_0110F_00029_0320A, 0x00028_01110_00029_0320B,
    0x00028_01111_00029_0320C, 0x00028_01112_00029_0320D, 0x00028_01100_01161_00029_0320E,
    0x00028_01102_01161_00029_0320F, 0x00028_01103_01161_00029_03210,
    0x00028_01105_01161_00029_03211, 0x00028_01106_01161_00029_03212,
    0x00028_01107_01161_00029_03213, 0x00028_01109_01161_00029_03214,
    0x00028_0110B_01161_00029_03215, 0x00028_0110C_01161_00029_03216,
    0x00028_0110E_01161_00029_03217, 0x00028_0110F_01161_00029_03218,
    0x00028_01110_01161_00029_03219, 0x00028_01111_01161_00029_0321A,
    0x00028_01112_01161_00029_0321B, 0x00028_0110C_0116E_00029_0321C,
    0x00028_0110B_01169_0110C_01165_011AB_00029_0321D, 0x00028_0110B_01169_01112_0116E_00029_0321E,
    0x00028_04E00_00029_03220, 0x00028_04E8C_00029_03221, 0x00028_04E09_00029_03222,
    0x00028_056DB_00029_03223, 0x00028_04E94_00029_03224, 0x00028_0516D_00029_03225,
    0x00028_04E03_00029_03226, 0x00028_0516B_00029_03227, 0x00028_04E5D_00029_03228,
    0x00028_05341_00029_03229, 0x00028_06708_00029_0322A, 0x00028_0706B_00029_0322B,
    0x00028_06C34_00029_0322C, 0x00028_06728_00029_0322D, 0x00028_091D1_00029_0322E,
    0x00028_0571F_00029_0322F, 0x00028_065E5_00029_03230, 0x00028_0682A_00029_03231,
    0x00028_06709_00029_03232, 0x00028_0793E_00029_03233, 0x00028_0540D_00029_03234,
    0x00028_07279_00029_03235, 0x00028_08CA1_00029_03236, 0x00028_0795D_00029_03237,
    0x00028_052B4_00029_03238, 0x00028_04EE3_00029_03239, 0x00028_0547C_00029_0323A,
    0x00028_05B66_00029_0323B, 0x00028_076E3_00029_0323C, 0x00028_04F01_00029_0323D,
    0x00028_08CC7_00029_0323E, 0x00028_05354_00029_0323F, 0x00028_0796D_00029_03240,
    0x00028_04F11_00029_03241, 0x00028_081EA_00029_03242, 0x00028_081F3_00029_03243, 0x0554F_03244,
    0x05E7C_03245, 0x06587_03246, 0x07B8F_03247, 0x00050_00054_00045_03250, 0x00032_00031_03251,
    0x00032_00032_03252, 0x00032_00033_03253, 0x00032_00034_03254, 0x00032_00035_03255,
    0x00032_00036_03256, 0x00032_00037_03257, 0x00032_00038_03258, 0x00032_00039_03259,
    0x00033_00030_0325A, 0x00033_00031_0325B, 0x00033_00032_0325C, 0x00033_00033_0325D,
    0x00033_00034_0325E, 0x00033_00035_0325F, 0x01100_03260, 0x01102_03261, 0x01103_03262,
    0x01105_03263, 0x01106_03264, 0x01107_03265, 0x01109_03266, 0x0110B_03267, 0x0110C_03268,
    0x0110E_03269, 0x0110F_0326A, 0x01110_0326B, 0x01111_0326C, 0x01112_0326D, 0x01100_01161_0326E,
    0x01102_01161_0326F, 0x01103_01161_03270, 0x01105_01161_03271, 0x01106_01161_03272,
    0x01107_01161_03273, 0x01109_01161_03274, 0x0110B_01161_03275, 0x0110C_01161_03276,
    0x0110E_01161_03277, 0x0110F_01161_03278, 0x01110_01161_03279, 0x01111_01161_0327A,
    0x01112_01161_0327B, 0x0110E_01161_011B7_01100_01169_0327C, 0x0110C_0116E_0110B_01174_0327D,
    0x0110B_0116E_0327E, 0x04E00_03280, 0x04E8C_03281, 0x04E09_03282, 0x056DB_03283, 0x04E94_03284,
    0x0516D_03285, 0x04E03_03286, 0x0516B_03287, 0x04E5D_03288, 0x05341_03289, 0x06708_0328A,
    0x0706B_0328B, 0x06C34_0328C, 0x06728_0328D, 0x091D1_0328E, 0x0571F_0328F, 0x065E5_03290,
    0x0682A_03291, 0x06709_03292, 0x0793E_03293, 0x0540D_03294, 0x07279_03295, 0x08CA1_03296,
    0x0795D_03297, 0x052B4_03298, 0x079D8_03299, 0x07537_0329A, 0x05973_0329B, 0x09069_0329C,
    0x0512A_0329D, 0x05370_0329E, 0x06CE8_0329F, 0x09805_032A0, 0x04F11_032A1, 0x05199_032A2,
    0x06B63_032A3, 0x04E0A_032A4, 0x04E2D_032A5, 0x04E0B_032A6, 0x05DE6_032A7, 0x053F3_032A8,
    0x0533B_032A9, 0x05B97_032AA, 0x05B66_032AB, 0x076E3_032AC, 0x04F01_032AD, 0x08CC7_032AE,
    0x05354_032AF, 0x0591C_032B0, 0x00033_00036_032B1, 0x00033_00037_032B2, 0x00033_00038_032B3,
    0x00033_00039_032B4, 0x00034_00030_032B5, 0x00034_00031_032B6, 0x00034_00032_032B7,
    0x00034_00033_032B8, 0x00034_00034_032B9, 0x00034_00035_032BA, 0x00034_00036_032BB,
    0x00034_00037_032BC, 0x00034_00038_032BD, 0x00034_00039_032BE, 0x00035_00030_032BF,
    0x00031_06708_032C0, 0x00032_06708_032C1, 0x00033_06708_032C2, 0x00034_06708_032C3,
    0x00035_06708_032C4, 0x00036_06708_032C5, 0x00037_06708_032C6, 0x00038_06708_032C7,
    0x00039_06708_032C8, 0x00031_00030_06708_032C9, 0x00031_00031_06708_032CA,
    0x00031_00032_06708_032CB, 0x00048_00067_032CC, 0x00065_00072_00067_032CD, 0x00065_00056_032CE,
    0x0004C_00054_00044_032CF, 0x030A2_032D0, 0x030A4_032D1, 0x030A6_032D2, 0x030A8_032D3,
    0x030AA_032D4, 0x030AB_032D5, 0x030AD_032D6, 0x030AF_032D7, 0x030B1_032D8, 0x030B3_032D9,
    0x030B5_032DA, 0x030B7_032DB, 0x030B9_032DC, 0x030BB_032DD, 0x030BD_032DE, 0x030BF_032DF,
    0x030C1_032E0, 0x030C4_032E1, 0x030C6_032E2, 0x030C8_032E3, 0x030CA_032E4, 0x030CB_032E5,
    0x030CC_032E6, 0x030CD_032E7, 0x030CE_032E8, 0x030CF_032E9, 0x030D2_032EA, 0x030D5_032EB,
    0x030D8_032EC, 0x030DB_032ED, 0x030DE_032EE, 0x030DF_032EF, 0x030E0_032F0, 0x030E1_032F1,
    0x030E2_032F2, 0x030E4_032F3, 0x030E6_032F4, 0x030E8_032F5, 0x030E9_032F6, 0x030EA_032F7,
    0x030EB_032F8, 0x030EC_032F9, 0x030ED_032FA, 0x030EF_032FB, 0x030F0_032FC, 0x030F1_032FD,
    0x030F2_032FE, 0x04EE4_0548C_032FF]),
  (0x033, [0x030A2_030CF_0309A_030FC_030C8_03300, 0x030A2_030EB_030D5_030A1_03301,
    0x030A2_030F3_030D8_0309A_030A2_03302, 0x030A2_030FC_030EB_03303,
    0x030A4_030CB_030F3_030AF_03099_03304, 0x030A4_030F3_030C1_03305, 0x030A6_030A9_030F3_03306,
    0x030A8_030B9_030AF_030FC_030C8_03099_03307, 0x030A8_030FC_030AB_030FC_03308,
    0x030AA_030F3_030B9_03309, 0x030AA_030FC_030E0_0330A, 0x030AB_030A4_030EA_0330B,
    0x030AB_030E9_030C3_030C8_0330C, 0x030AB_030ED_030EA_030FC_0330D,
    0x030AB_03099_030ED_030F3_0330E, 0x030AB_03099_030F3_030DE_0330F,
    0x030AD_03099_030AB_03099_03310, 0x030AD_03099_030CB_030FC_03311,
    0x030AD_030E5_030EA_030FC_03312, 0x030AD_03099_030EB_030BF_03099_030FC_03313,
    0x030AD_030ED_03314, 0x030AD_030ED_030AF_03099_030E9_030E0_03315,
    0x030AD_030ED_030E1_030FC_030C8_030EB_03316, 0x030AD_030ED_030EF_030C3_030C8_03317,
    0x030AF_03099_030E9_030E0_03318, 0x030AF_03099_030E9_030E0_030C8_030F3_03319,
    0x030AF_030EB_030BB_03099_030A4_030ED_0331A, 0x030AF_030ED_030FC_030CD_0331B,
    0x030B1_030FC_030B9_0331C, 0x030B3_030EB_030CA_0331D, 0x030B3_030FC_030DB_0309A_0331E,
    0x030B5_030A4_030AF_030EB_0331F, 0x030B5_030F3_030C1_030FC_030E0_03320,
    0x030B7_030EA_030F3_030AF_03099_03321, 0x030BB_030F3_030C1_03322, 0x030BB_030F3_030C8_03323,
    0x030BF_03099_030FC_030B9_03324, 0x030C6_03099_030B7_03325, 0x030C8_03099_030EB_03326,
    0x030C8_030F3_03327, 0x030CA_030CE_03328, 0x030CE_030C3_030C8_03329, 0x030CF_030A4_030C4_0332A,
    0x030CF_0309A_030FC_030BB_030F3_030C8_0332B, 0x030CF_0309A_030FC_030C4_0332C,
    0x030CF_03099_030FC_030EC_030EB_0332D, 0x030D2_0309A_030A2_030B9_030C8_030EB_0332E,
    0x030D2_0309A_030AF_030EB_0332F, 0x030D2_0309A_030B3_03330, 0x030D2_03099_030EB_03331,
    0x030D5_030A1_030E9_030C3_030C8_03099_03332, 0x030D5_030A3_030FC_030C8_03333,
    0x030D5_03099_030C3_030B7_030A7_030EB_03334, 0x030D5_030E9_030F3_03335,
    0x030D8_030AF_030BF_030FC_030EB_03336, 0x030D8_0309A_030BD_03337,
    0x030D8_0309A_030CB_030D2_03338, 0x030D8_030EB_030C4_03339, 0x030D8_0309A_030F3_030B9_0333A,
    0x030D8_0309A_030FC_030B7_03099_0333B, 0x030D8_03099_030FC_030BF_0333C,
    0x030DB_0309A_030A4_030F3_030C8_0333D, 0x030DB_03099_030EB_030C8_0333E, 0x030DB_030F3_0333F,
    0x030DB_0309A_030F3_030C8_03099_03340, 0x030DB_030FC_030EB_03341, 0x030DB_030FC_030F3_03342,
    0x030DE_030A4_030AF_030ED_03343, 0x030DE_030A4_030EB_03344, 0x030DE_030C3_030CF_03345,
    0x030DE_030EB_030AF_03346, 0x030DE_030F3_030B7_030E7_030F3_03347,
    0x030DF_030AF_030ED_030F3_03348, 0x030DF_030EA_03349,
    0x030DF_030EA_030CF_03099_030FC_030EB_0334A, 0x030E1_030AB_03099_0334B,
    0x030E1_030AB_03099_030C8_030F3_0334C, 0x030E1_030FC_030C8_030EB_0334D,
    0x030E4_030FC_030C8_03099_0334E, 0x030E4_030FC_030EB_0334F, 0x030E6_030A2_030F3_03350,
    0x030EA_030C3_030C8_030EB_03351, 0x030EA_030E9_03352, 0x030EB_030D2_0309A_030FC_03353,
    0x030EB_030FC_030D5_03099_030EB_03354, 0x030EC_030E0_03355,
    0x030EC_030F3_030C8_030B1_03099_030F3_03356, 0x030EF_030C3_030C8_03357, 0x00030_070B9_03358,
    0x00031_070B9_03359, 0x00032_070B9_0335A, 0x00033_070B9_0335B, 0x00034_070B9_0335C,
    0x00035_070B9_0335D, 0x00036_070B9_0335E, 0x00037_070B9_0335F, 0x00038_070B9_03360,
    0x00039_070B9_03361, 0x00031_00030_070B9_03362, 0x00031_00031_070B9_03363,
    0x00031_00032_070B9_03364, 0x00031_00033_070B9_03365, 0x00031_00034_070B9_03366,
    0x00031_00035_070B9_03367, 0x00031_00036_070B9_03368, 0x00031_00037_070B9_03369,
    0x00031_00038_070B9_0336A, 0x00031_00039_070B9_0336B, 0x00032_00030_070B9_0336C,
    0x00032_00031_070B9_0336D, 0x00032_00032_070B9_0336E, 0x00032_00033_070B9_0336F,
    0x00032_00034_070B9_03370, 0x00068_00050_00061_03371, 0x00064_00061_03372, 0x00041_00055_03373,
    0x00062_00061_00072_03374, 0x0006F_00056_03375, 0x00070_00063_03376, 0x00064_0006D_03377,
    0x00064_0006D_00032_03378, 0x00064_0006D_00033_03379, 0x00049_00055_0337A, 0x05E73_06210_0337B,
    0x0662D_0548C_0337C, 0x05927_06B63_0337D, 0x0660E_06CBB_0337E, 0x0682A_05F0F_04F1A_0793E_0337F,
    0x00070_00041_03380, 0x0006E_00041_03381, 0x003BC_00041_03382, 0x0006D_00041_03383,
    0x0006B_00041_03384, 0x0004B_00042_03385, 0x0004D_00042_03386, 0x00047_00042_03387,
    0x00063_00061_0006C_03388, 0x0006B_00063_00061_0006C_03389, 0x00070_00046_0338A,
    0x0006E_00046_0338B, 0x003BC_00046_0338C, 0x003BC_00067_0338D, 0x0006D_00067_0338E,
    0x0006B_00067_0338F, 0x00048_0007A_03390, 0x0006B_00048_0007A_03391, 0x0004D_00048_0007A_03392,
    0x00047_00048_0007A_03393, 0x00054_00048_0007A_03394, 0x003BC_0006C_03395, 0x0006D_0006C_03396,
    0x00064_0006C_03397, 0x0006B_0006C_03398, 0x00066_0006D_03399, 0x0006E_0006D_0339A,
    0x003BC_0006D_0339B, 0x0006D_0006D_0339C, 0x00063_0006D_0339D, 0x0006B_0006D_0339E,
    0x0006D_0006D_00032_0339F, 0x00063_0006D_00032_033A0, 0x0006D_00032_033A1,
    0x0006B_0006D_00032_033A2, 0x0006D_0006D_00033_033A3, 0x00063_0006D_00033_033A4,
    0x0006D_00033_033A5, 0x0006B_0006D_00033_033A6, 0x0006D_02215_00073_033A7,
    0x0006D_02215_00073_00032_033A8, 0x00050_00061_033A9, 0x0006B_00050_00061_033AA,
    0x0004D_00050_00061_033AB, 0x00047_00050_00061_033AC, 0x00072_00061_00064_033AD,
    0x00072_00061_00064_02215_00073_033AE, 0x00072_00061_00064_02215_00073_00032_033AF,
    0x00070_00073_033B0, 0x0006E_00073_033B1, 0x003BC_00073_033B2, 0x0006D_00073_033B3,
    0x00070_00056_033B4, 0x0006E_00056_033B5, 0x003BC_00056_033B6, 0x0006D_00056_033B7,
    0x0006B_00056_033B8, 0x0004D_00056_033B9, 0x00070_00057_033BA, 0x0006E_00057_033BB,
    0x003BC_00057_033BC, 0x0006D_00057_033BD, 0x0006B_00057_033BE, 0x0004D_00057_033BF,
    0x0006B_003A9_033C0, 0x0004D_003A9_033C1, 0x00061_0002E_0006D_0002E_033C2, 0x00042_00071_033C3,
    0x00063_00063_033C4, 0x00063_00064_033C5, 0x00043_02215_0006B_00067_033C6,
    0x00043_0006F_0002E_033C7, 0x00064_00042_033C8, 0x00047_00079_033C9, 0x00068_00061_033CA,
    0x00048_00050_033CB, 0x00069_0006E_033CC, 0x0004B_0004B_033CD, 0x0004B_0004D_033CE,
    0x0006B_00074_033CF, 0x0006C_0006D_033D0, 0x0006C_0006E_033D1, 0x0006C_0006F_00067_033D2,
    0x0006C_00078_033D3, 0x0006D_00062_033D4, 0x0006D_00069_0006C_033D5, 0x0006D_0006F_0006C_033D6,
    0x00050_00048_033D7, 0x00070_0002E_0006D_0002E_033D8, 0x00050_00050_0004D_033D9,
    0x00050_00052_033DA, 0x00073_00072_033DB, 0x00053_00076_033DC, 0x00057_00062_033DD,
    0x00056_02215_0006D_033DE, 0x00041_02215_0006D_033DF, 0x00031_065E5_033E0, 0x00032_065E5_033E1,
    0x00033_065E5_033E2, 0x00034_065E5_033E3, 0x00035_065E5_033E4, 0x00036_065E5_033E5,
    0x00037_065E5_033E6, 0x00038_065E5_033E7, 0x00039_065E5_033E8, 0x00031_00030_065E5_033E9,
    0x00031_00031_065E5_033EA, 0x00031_00032_065E5_033EB, 0x00031_00033_065E5_033EC,
    0x00031_00034_065E5_033ED, 0x00031_00035_065E5_033EE, 0x00031_00036_065E5_033EF,
    0x00031_00037_065E5_033F0, 0x00031_00038_065E5_033F1, 0x00031_00039_065E5_033F2,
    0x00032_00030_065E5_033F3, 0x00032_00031_065E5_033F4, 0x00032_00032_065E5_033F5,
    0x00032_00033_065E5_033F6, 0x00032_00034_065E5_033F7, 0x00032_00035_065E5_033F8,
    0x00032_00036_065E5_033F9, 0x00032_00037_065E5_033FA, 0x00032_00038_065E5_033FB,
    0x00032_00039_065E5_033FC, 0x00033_00030_065E5_033FD, 0x00033_00031_065E5_033FE,
    0x00067_00061_0006C_033FF]),
  (0x0A6, [0x0044A_0A69C, 0x0044C_0A69D]),
  (0x0A7, [0x0A76F_0A770, 0x00043_0A7F2, 0x00046_0A7F3, 0x00051_0A7F4, 0x00126_0A7F8, 0x00153_0A7F9]),
  (0x0AB, [0x0A727_0AB5C, 0x0AB37_0AB5D, 0x0026B_0AB5E, 0x0AB52_0AB5F, 0x0028D_0AB69]),
  (0x0F9, [0x08C48_0F900, 0x066F4_0F901, 0x08ECA_0F902, 0x08CC8_0F903, 0x06ED1_0F904, 0x04E32_0F905,
    0x053E5_0F906, 0x09F9C_0F907, 0x09F9C_0F908, 0x05951_0F909, 0x091D1_0F90A, 0x05587_0F90B,
    0x05948_0F90C, 0x061F6_0F90D, 0x07669_0F90E, 0x07F85_0F90F, 0x0863F_0F910, 0x087BA_0F911,
    0x088F8_0F912, 0x0908F_0F913, 0x06A02_0F914, 0x06D1B_0F915, 0x070D9_0F916, 0x073DE_0F917,
    0x0843D_0F918, 0x0916A_0F919, 0x099F1_0F91A, 0x04E82_0F91B, 0x05375_0F91C, 0x06B04_0F91D,
    0x0721B_0F91E, 0x0862D_0F91F, 0x09E1E_0F920, 0x05D50_0F921, 0x06FEB_0F922, 0x085CD_0F923,
    0x08964_0F924, 0x062C9_0F925, 0x081D8_0F926, 0x0881F_0F927, 0x05ECA_0F928, 0x06717_0F929,
    0x06D6A_0F92A, 0x072FC_0F92B, 0x090CE_0F92C, 0x04F86_0F92D, 0x051B7_0F92E, 0x052DE_0F92F,
    0x064C4_0F930, 0x06AD3_0F931, 0x07210_0F932, 0x076E7_0F933, 0x08001_0F934, 0x08606_0F935,
    0x0865C_0F936, 0x08DEF_0F937, 0x09732_0F938, 0x09B6F_0F939, 0x09DFA_0F93A, 0x0788C_0F93B,
    0x0797F_0F93C, 0x07DA0_0F93D, 0x083C9_0F93E, 0x09304_0F93F, 0x09E7F_0F940, 0x08AD6_0F941,
    0x058DF_0F942, 0x05F04_0F943, 0x07C60_0F944, 0x0807E_0F945, 0x07262_0F946, 0x078CA_0F947,
    0x08CC2_0F948, 0x096F7_0F949, 0x058D8_0F94A, 0x05C62_0F94B, 0x06A13_0F94C, 0x06DDA_0F94D,
    0x06F0F_0F94E, 0x07D2F_0F94F, 0x07E37_0F950, 0x0964B_0F951, 0x052D2_0F952, 0x0808B_0F953,
    0x051DC_0F954, 0x051CC_0F955, 0x07A1C_0F956, 0x07DBE_0F957, 0x083F1_0F958, 0x09675_0F959,
    0x08B80_0F95A, 0x062CF_0F95B, 0x06A02_0F95C, 0x08AFE_0F95D, 0x04E39_0F95E, 0x05BE7_0F95F,
    0x06012_0F960, 0x07387_0F961, 0x07570_0F962, 0x05317_0F963, 0x078FB_0F964, 0x04FBF_0F965,
    0x05FA9_0F966, 0x04E0D_0F967, 0x06CCC_0F968, 0x06578_0F969, 0x07D22_0F96A, 0x053C3_0F96B,
    0x0585E_0F96C, 0x07701_0F96D, 0x08449_0F96E, 0x08AAA_0F96F, 0x06BBA_0F970, 0x08FB0_0F971,
    0x06C88_0F972, 0x062FE_0F973, 0x082E5_0F974, 0x063A0_0F975, 0x07565_0F976, 0x04EAE_0F977,
    0x05169_0F978, 0x051C9_0F979, 0x06881_0F97A, 0x07CE7_0F97B, 0x0826F_0F97C, 0x08AD2_0F97D,
    0x091CF_0F97E, 0x052F5_0F97F, 0x05442_0F980, 0x05973_0F981, 0x05EEC_0F982, 0x065C5_0F983,
    0x06FFE_0F984, 0x0792A_0F985, 0x095AD_0F986, 0x09A6A_0F987, 0x09E97_0F988, 0x09ECE_0F989,
    0x0529B_0F98A, 0x066C6_0F98B, 0x06B77_0F98C, 0x08F62_0F98D, 0x05E74_0F98E, 0x06190_0F98F,
    0x06200_0F990, 0x0649A_0F991, 0x06F23_0F992, 0x07149_0F993, 0x07489_0F994, 0x079CA_0F995,
    0x07DF4_0F996, 0x0806F_0F997, 0x08F26_0F998, 0x084EE_0F999, 0x09023_0F99A, 0x0934A_0F99B,
    0x05217_0F99C, 0x052A3_0F99D, 0x054BD_0F99E, 0x070C8_0F99F, 0x088C2_0F9A0, 0x08AAA_0F9A1,
    0x05EC9_0F9A2, 0x05FF5_0F9A3, 0x0637B_0F9A4, 0x06BAE_0F9A5, 0x07C3E_0F9A6, 0x07375_0F9A7,
    0x04EE4_0F9A8, 0x056F9_0F9A9, 0x05BE7_0F9AA, 0x05DBA_0F9AB, 0x0601C_0F9AC, 0x073B2_0F9AD,
    0x07469_0F9AE, 0x07F9A_0F9AF, 0x08046_0F9B0, 0x09234_0F9B1, 0x096F6_0F9B2, 0x09748_0F9B3,
    0x09818_0F9B4, 0x04F8B_0F9B5, 0x079AE_0F9B6, 0x091B4_0F9B7, 0x096B8_0F9B8, 0x060E1_0F9B9,
    0x04E86_0F9BA, 0x050DA_0F9BB, 0x05BEE_0F9BC, 0x05C3F_0F9BD, 0x06599_0F9BE, 0x06A02_0F9BF,
    0x071CE_0F9C0, 0x07642_0F9C1, 0x084FC_0F9C2, 0x0907C_0F9C3, 0x09F8D_0F9C4, 0x06688_0F9C5,
    0x0962E_0F9C6, 0x05289_0F9C7, 0x0677B_0F9C8, 0x067F3_0F9C9, 0x06D41_0F9CA, 0x06E9C_0F9CB,
    0x07409_0F9CC, 0x07559_0F9CD, 0x0786B_0F9CE, 0x07D10_0F9CF, 0x0985E_0F9D0, 0x0516D_0F9D1,
    0x0622E_0F9D2, 0x09678_0F9D3, 0x0502B_0F9D4, 0x05D19_0F9D5, 0x06DEA_0F9D6, 0x08F2A_0F9D7,
    0x05F8B_0F9D8, 0x06144_0F9D9, 0x06817_0F9DA, 0x07387_0F9DB, 0x09686_0F9DC, 0x05229_0F9DD,
    0x0540F_0F9DE, 0x05C65_0F9DF, 0x06613_0F9E0, 0x0674E_0F9E1, 0x068A8_0F9E2, 0x06CE5_0F9E3,
    0x07406_0F9E4, 0x075E2_0F9E5, 0x07F79_0F9E6, 0x088CF_0F9E7, 0x088E1_0F9E8, 0x091CC_0F9E9,
    0x096E2_0F9EA, 0x0533F_0F9EB, 0x06EBA_0F9EC, 0x0541D_0F9ED, 0x071D0_0F9EE, 0x07498_0F9EF,
    0x085FA_0F9F0, 0x096A3_0F9F1, 0x09C57_0F9F2, 0x09E9F_0F9F3, 0x06797_0F9F4, 0x06DCB_0F9F5,
    0x081E8_0F9F6, 0x07ACB_0F9F7, 0x07B20_0F9F8, 0x07C92_0F9F9, 0x072C0_0F9FA, 0x07099_0F9FB,
    0x08B58_0F9FC, 0x04EC0_0F9FD, 0x08336_0F9FE, 0x0523A_0F9FF]),
  (0x0FA, [0x05207_0FA00, 0x05EA6_0FA01, 0x062D3_0FA02, 0x07CD6_0FA03, 0x05B85_0FA04, 0x06D1E_0FA05,
    0x066B4_0FA06, 0x08F3B_0FA07, 0x0884C_0FA08, 0x0964D_0FA09, 0x0898B_0FA0A, 0x05ED3_0FA0B,
    0x05140_0FA0C, 0x055C0_0FA0D, 0x0585A_0FA10, 0x06674_0FA12, 0x051DE_0FA15, 0x0732A_0FA16,
    0x076CA_0FA17, 0x0793C_0FA18, 0x0795E_0FA19, 0x07965_0FA1A, 0x0798F_0FA1B, 0x09756_0FA1C,
    0x07CBE_0FA1D, 0x07FBD_0FA1E, 0x08612_0FA20, 0x08AF8_0FA22, 0x09038_0FA25, 0x090FD_0FA26,
    0x098EF_0FA2A, 0x098FC_0FA2B, 0x09928_0FA2C, 0x09DB4_0FA2D, 0x090DE_0FA2E, 0x096B7_0FA2F,
    0x04FAE_0FA30, 0x050E7_0FA31, 0x0514D_0FA32, 0x052C9_0FA33, 0x052E4_0FA34, 0x05351_0FA35,
    0x0559D_0FA36, 0x05606_0FA37, 0x05668_0FA38, 0x05840_0FA39, 0x058A8_0FA3A, 0x05C64_0FA3B,
    0x05C6E_0FA3C, 0x06094_0FA3D, 0x06168_0FA3E, 0x0618E_0FA3F, 0x061F2_0FA40, 0x0654F_0FA41,
    0x065E2_0FA42, 0x06691_0FA43, 0x06885_0FA44, 0x06D77_0FA45, 0x06E1A_0FA46, 0x06F22_0FA47,
    0x0716E_0FA48, 0x0722B_0FA49, 0x07422_0FA4A, 0x07891_0FA4B, 0x0793E_0FA4C, 0x07949_0FA4D,
    0x07948_0FA4E, 0x07950_0FA4F, 0x07956_0FA50, 0x0795D_0FA51, 0x0798D_0FA52, 0x0798E_0FA53,
    0x07A40_0FA54, 0x07A81_0FA55, 0x07BC0_0FA56, 0x07DF4_0FA57, 0x07E09_0FA58, 0x07E41_0FA59,
    0x07F72_0FA5A, 0x08005_0FA5B, 0x081ED_0FA5C, 0x08279_0FA5D, 0x08279_0FA5E, 0x08457_0FA5F,
    0x08910_0FA60, 0x08996_0FA61, 0x08B01_0FA62, 0x08B39_0FA63, 0x08CD3_0FA64, 0x08D08_0FA65,
    0x08FB6_0FA66, 0x09038_0FA67, 0x096E3_0FA68, 0x097FF_0FA69, 0x0983B_0FA6A, 0x06075_0FA6B,
    0x242EE_0FA6C, 0x08218_0FA6D, 0x04E26_0FA70, 0x051B5_0FA71, 0x05168_0FA72, 0x04F80_0FA73,
    0x05145_0FA74, 0x05180_0FA75, 0x052C7_0FA76, 0x052FA_0FA77, 0x0559D_0FA78, 0x05555_0FA79,
    0x05599_0FA7A, 0x055E2_0FA7B, 0x0585A_0FA7C, 0x058B3_0FA7D, 0x05944_0FA7E, 0x05954_0FA7F,
    0x05A62_0FA80, 0x05B28_0FA81, 0x05ED2_0FA82, 0x05ED9_0FA83, 0x05F69_0FA84, 0x05FAD_0FA85,
    0x060D8_0FA86, 0x0614E_0FA87, 0x06108_0FA88, 0x0618E_0FA89, 0x06160_0FA8A, 0x061F2_0FA8B,
    0x06234_0FA8C, 0x063C4_0FA8D, 0x0641C_0FA8E, 0x06452_0FA8F, 0x06556_0FA90, 0x06674_0FA91,
    0x06717_0FA92, 0x0671B_0FA93, 0x06756_0FA94, 0x06B79_0FA95, 0x06BBA_0FA96, 0x06D41_0FA97,
    0x06EDB_0FA98, 0x06ECB_0FA99, 0x06F22_0FA9A, 0x0701E_0FA9B, 0x0716E_0FA9C, 0x077A7_0FA9D,
    0x07235_0FA9E, 0x072AF_0FA9F, 0x0732A_0FAA0, 0x07471_0FAA1, 0x07506_0FAA2, 0x0753B_0FAA3,
    0x0761D_0FAA4, 0x0761F_0FAA5, 0x076CA_0FAA6, 0x076DB_0FAA7, 0x076F4_0FAA8, 0x0774A_0FAA9,
    0x07740_0FAAA, 0x078CC_0FAAB, 0x07AB1_0FAAC, 0x07BC0_0FAAD, 0x07C7B_0FAAE, 0x07D5B_0FAAF,
    0x07DF4_0FAB0, 0x07F3E_0FAB1, 0x08005_0FAB2, 0x08352_0FAB3, 0x083EF_0FAB4, 0x08779_0FAB5,
    0x08941_0FAB6, 0x08986_0FAB7, 0x08996_0FAB8, 0x08ABF_0FAB9, 0x08AF8_0FABA, 0x08ACB_0FABB,
    0x08B01_0FABC, 0x08AFE_0FABD, 0x08AED_0FABE, 0x08B39_0FABF, 0x08B8A_0FAC0, 0x08D08_0FAC1,
    0x08F38_0FAC2, 0x09072_0FAC3, 0x09199_0FAC4, 0x09276_0FAC5, 0x0967C_0FAC6, 0x096E3_0FAC7,
    0x09756_0FAC8, 0x097DB_0FAC9, 0x097FF_0FACA, 0x0980B_0FACB, 0x0983B_0FACC, 0x09B12_0FACD,
    0x09F9C_0FACE, 0x2284A_0FACF, 0x22844_0FAD0, 0x233D5_0FAD1, 0x03B9D_0FAD2, 0x04018_0FAD3,
    0x04039_0FAD4, 0x25249_0FAD5, 0x25CD0_0FAD6, 0x27ED3_0FAD7, 0x09F43_0FAD8, 0x09F8E_0FAD9]),
  (0x0FB, [0x00066_00066_0FB00, 0x00066_00069_0FB01, 0x00066_0006C_0FB02, 0x00066_00066_00069_0FB03,
    0x00066_00066_0006C_0FB04, 0x00073_00074_0FB05, 0x00073_00074_0FB06, 0x00574_00576_0FB13,
    0x00574_00565_0FB14, 0x00574_0056B_0FB15, 0x0057E_00576_0FB16, 0x00574_0056D_0FB17,
    0x005D9_005B4_0FB1D, 0x005F2_005B7_0FB1F, 0x005E2_0FB20, 0x005D0_0FB21, 0x005D3_0FB22,
    0x005D4_0FB23, 0x005DB_0FB24, 0x005DC_0FB25, 0x005DD_0FB26, 0x005E8_0FB27, 0x005EA_0FB28,
    0x0002B_0FB29, 0x005E9_005C1_0FB2A, 0x005E9_005C2_0FB2B, 0x005E9_005BC_005C1_0FB2C,
    0x005E9_005BC_005C2_0FB2D, 0x005D0_005B7_0FB2E, 0x005D0_005B8_0FB2F, 0x005D0_005BC_0FB30,
    0x005D1_005BC_0FB31, 0x005D2_005BC_0FB32, 0x005D3_005BC_0FB33, 0x005D4_005BC_0FB34,
    0x005D5_005BC_0FB35, 0x005D6_005BC_0FB36, 0x005D8_005BC_0FB38, 0x005D9_005BC_0FB39,
    0x005DA_005BC_0FB3A, 0x005DB_005BC_0FB3B, 0x005DC_005BC_0FB3C, 0x005DE_005BC_0FB3E,
    0x005E0_005BC_0FB40, 0x005E1_005BC_0FB41, 0x005E3_005BC_0FB43, 0x005E4_005BC_0FB44,
    0x005E6_005BC_0FB46, 0x005E7_005BC_0FB47, 0x005E8_005BC_0FB48, 0x005E9_005BC_0FB49,
    0x005EA_005BC_0FB4A, 0x005D5_005B9_0FB4B, 0x005D1_005BF_0FB4C, 0x005DB_005BF_0FB4D,
    0x005E4_005BF_0FB4E, 0x005D0_005DC_0FB4F, 0x00671_0FB50, 0x00671_0FB51, 0x0067B_0FB52,
    0x0067B_0FB53, 0x0067B_0FB54, 0x0067B_0FB55, 0x0067E_0FB56, 0x0067E_0FB57, 0x0067E_0FB58,
    0x0067E_0FB59, 0x00680_0FB5A, 0x00680_0FB5B, 0x00680_0FB5C, 0x00680_0FB5D, 0x0067A_0FB5E,
    0x0067A_0FB5F, 0x0067A_0FB60, 0x0067A_0FB61, 0x0067F_0FB62, 0x0067F_0FB63, 0x0067F_0FB64,
    0x0067F_0FB65, 0x00679_0FB66, 0x00679_0FB67, 0x00679_0FB68, 0x00679_0FB69, 0x006A4_0FB6A,
    0x006A4_0FB6B, 0x006A4_0FB6C, 0x006A4_0FB6D, 0x006A6_0FB6E, 0x006A6_0FB6F, 0x006A6_0FB70,
    0x006A6_0FB71, 0x00684_0FB72, 0x00684_0FB73, 0x00684_0FB74, 0x00684_0FB75, 0x00683_0FB76,
    0x00683_0FB77, 0x00683_0FB78, 0x00683_0FB79, 0x00686_0FB7A, 0x00686_0FB7B, 0x00686_0FB7C,
    0x00686_0FB7D, 0x00687_0FB7E, 0x00687_0FB7F, 0x00687_0FB80, 0x00687_0FB81, 0x0068D_0FB82,
    0x0068D_0FB83, 0x0068C_0FB84, 0x0068C_0FB85, 0x0068E_0FB86, 0x0068E_0FB87, 0x00688_0FB88,
    0x00688_0FB89, 0x00698_0FB8A, 0x00698_0FB8B, 0x00691_0FB8C, 0x00691_0FB8D, 0x006A9_0FB8E,
    0x006A9_0FB8F, 0x006A9_0FB90, 0x006A9_0FB91, 0x006AF_0FB92, 0x006AF_0FB93, 0x006AF_0FB94,
    0x006AF_0FB95, 0x006B3_0FB96, 0x006B3_0FB97, 0x006B3_0FB98, 0x006B3_0FB99, 0x006B1_0FB9A,
    0x006B1_0FB9B, 0x006B1_0FB9C, 0x006B1_0FB9D, 0x006BA_0FB9E, 0x006BA_0FB9F, 0x006BB_0FBA0,
    0x006BB_0FBA1, 0x006BB_0FBA2, 0x006BB_0FBA3, 0x006D5_00654_0FBA4, 0x006D5_00654_0FBA5,
    0x006C1_0FBA6, 0x006C1_0FBA7, 0x006C1_0FBA8, 0x006C1_0FBA9, 0x006BE_0FBAA, 0x006BE_0FBAB,
    0x006BE_0FBAC, 0x006BE_0FBAD, 0x006D2_0FBAE, 0x006D2_0FBAF, 0x006D2_00654_0FBB0,
    0x006D2_00654_0FBB1, 0x006AD_0FBD3, 0x006AD_0FBD4, 0x006AD_0FBD5, 0x006AD_0FBD6, 0x006C7_0FBD7,
    0x006C7_0FBD8, 0x006C6_0FBD9, 0x006C6_0FBDA, 0x006C8_0FBDB, 0x006C8_0FBDC, 0x006C7_00674_0FBDD,
    0x006CB_0FBDE, 0x006CB_0FBDF, 0x006C5_0FBE0, 0x006C5_0FBE1, 0x006C9_0FBE2, 0x006C9_0FBE3,
    0x006D0_0FBE4, 0x006D0_0FBE5, 0x006D0_0FBE6, 0x006D0_0FBE7, 0x00649_0FBE8, 0x00649_0FBE9,
    0x0064A_00654_00627_0FBEA, 0x0064A_00654_00627_0FBEB, 0x0064A_00654_006D5_0FBEC,
    0x0064A_00654_006D5_0FBED, 0x0064A_00654_00648_0FBEE, 0x0064A_00654_00648_0FBEF,
    0x0064A_00654_006C7_0FBF0, 0x0064A_00654_006C7_0FBF1, 0x0064A_00654_006C6_0FBF2,
    0x0064A_00654_006C6_0FBF3, 0x0064A_00654_006C8_0FBF4, 0x0064A_00654_006C8_0FBF5,
    0x0064A_00654_006D0_0FBF6, 0x0064A_00654_006D0_0FBF7, 0x0064A_00654_006D0_0FBF8,
    0x0064A_00654_00649_0FBF9, 0x0064A_00654_00649_0FBFA, 0x0064A_00654_00649_0FBFB, 0x006CC_0FBFC,
    0x006CC_0FBFD, 0x006CC_0FBFE, 0x006CC_0FBFF]),
  (0x0FC, [0x0064A_00654_0062C_0FC00, 0x0064A_00654_0062D_0FC01, 0x0064A_00654_00645_0FC02,
    0x0064A_00654_00649_0FC03, 0x0064A_00654_0064A_0FC04, 0x00628_0062C_0FC05, 0x00628_0062D_0FC06,
    0x00628_0062E_0FC07, 0x00628_00645_0FC08, 0x00628_00649_0FC09, 0x00628_0064A_0FC0A,
    0x0062A_0062C_0FC0B, 0x0062A_0062D_0FC0C, 0x0062A_0062E_0FC0D, 0x0062A_00645_0FC0E,
    0x0062A_00649_0FC0F, 0x0062A_0064A_0FC10, 0x0062B_0062C_0FC11, 0x0062B_00645_0FC12,
    0x0062B_00649_0FC13, 0x0062B_0064A_0FC14, 0x0062C_0062D_0FC15, 0x0062C_00645_0FC16,
    0x0062D_0062C_0FC17, 0x0062D_00645_0FC18, 0x0062E_0062C_0FC19, 0x0062E_0062D_0FC1A,
    0x0062E_00645_0FC1B, 0x00633_0062C_0FC1C, 0x00633_0062D_0FC1D, 0x00633_0062E_0FC1E,
    0x00633_00645_0FC1F, 0x00635_0062D_0FC20, 0x00635_00645_0FC21, 0x00636_0062C_0FC22,
    0x00636_0062D_0FC23, 0x00636_0062E_0FC24, 0x00636_00645_0FC25, 0x00637_0062D_0FC26,
    0x00637_00645_0FC27, 0x00638_00645_0FC28, 0x00639_0062C_0FC29, 0x00639_00645_0FC2A,
    0x0063A_0062C_0FC2B, 0x0063A_00645_0FC2C, 0x00641_0062C_0FC2D, 0x00641_0062D_0FC2E,
    0x00641_0062E_0FC2F, 0x00641_00645_0FC30, 0x00641_00649_0FC31, 0x00641_0064A_0FC32,
    0x00642_0062D_0FC33, 0x00642_00645_0FC34, 0x00642_00649_0FC35, 0x00642_0064A_0FC36,
    0x00643_00627_0FC37, 0x00643_0062C_0FC38, 0x00643_0062D_0FC39, 0x00643_0062E_0FC3A,
    0x00643_00644_0FC3B, 0x00643_00645_0FC3C, 0x00643_00649_0FC3D, 0x00643_0064A_0FC3E,
    0x00644_0062C_0FC3F, 0x00644_0062D_0FC40, 0x00644_0062E_0FC41, 0x00644_00645_0FC42,
    0x00644_00649_0FC43, 0x00644_0064A_0FC44, 0x00645_0062C_0FC45, 0x00645_0062D_0FC46,
    0x00645_0062E_0FC47, 0x00645_00645_0FC48, 0x00645_00649_0FC49, 0x00645_0064A_0FC4A,
    0x00646_0062C_0FC4B, 0x00646_0062D_0FC4C, 0x00646_0062E_0FC4D, 0x00646_00645_0FC4E,
    0x00646_00649_0FC4F, 0x00646_0064A_0FC50, 0x00647_0062C_0FC51, 0x00647_00645_0FC52,
    0x00647_00649_0FC53, 0x00647_0064A_0FC54, 0x0064A_0062C_0FC55, 0x0064A_0062D_0FC56,
    0x0064A_0062E_0FC57, 0x0064A_00645_0FC58, 0x0064A_00649_0FC59, 0x0064A_0064A_0FC5A,
    0x00630_00670_0FC5B, 0x00631_00670_0FC5C, 0x00649_00670_0FC5D, 0x00020_0064C_00651_0FC5E,
    0x00020_0064D_00651_0FC5F, 0x00020_0064E_00651_0FC60, 0x00020_0064F_00651_0FC61,
    0x00020_00650_00651_0FC62, 0x00020_00651_00670_0FC63, 0x0064A_00654_00631_0FC64,
    0x0064A_00654_00632_0FC65, 0x0064A_00654_00645_0FC66, 0x0064A_00654_00646_0FC67,
    0x0064A_00654_00649_0FC68, 0x0064A_00654_0064A_0FC69, 0x00628_00631_0FC6A, 0x00628_00632_0FC6B,
    0x00628_00645_0FC6C, 0x00628_00646_0FC6D, 0x00628_00649_0FC6E, 0x00628_0064A_0FC6F,
    0x0062A_00631_0FC70, 0x0062A_00632_0FC71, 0x0062A_00645_0FC72, 0x0062A_00646_0FC73,
    0x0062A_00649_0FC74, 0x0062A_0064A_0FC75, 0x0062B_00631_0FC76, 0x0062B_00632_0FC77,
    0x0062B_00645_0FC78, 0x0062B_00646_0FC79, 0x0062B_00649_0FC7A, 0x0062B_0064A_0FC7B,
    0x00641_00649_0FC7C, 0x00641_0064A_0FC7D, 0x00642_00649_0FC7E, 0x00642_0064A_0FC7F,
    0x00643_00627_0FC80, 0x00643_00644_0FC81, 0x00643_00645_0FC82, 0x00643_00649_0FC83,
    0x00643_0064A_0FC84, 0x00644_00645_0FC85, 0x00644_00649_0FC86, 0x00644_0064A_0FC87,
    0x00645_00627_0FC88, 0x00645_00645_0FC89, 0x00646_00631_0FC8A, 0x00646_00632_0FC8B,
    0x00646_00645_0FC8C, 0x00646_00646_0FC8D, 0x00646_00649_0FC8E, 0x00646_0064A_0FC8F,
    0x00649_00670_0FC90, 0x0064A_00631_0FC91, 0x0064A_00632_0FC92, 0x0064A_00645_0FC93,
    0x0064A_00646_0FC94, 0x0064A_00649_0FC95, 0x0064A_0064A_0FC96, 0x0064A_00654_0062C_0FC97,
    0x0064A_00654_0062D_0FC98, 0x0064A_00654_0062E_0FC99, 0x0064A_00654_00645_0FC9A,
    0x0064A_00654_00647_0FC9B, 0x00628_0062C_0FC9C, 0x00628_0062D_0FC9D, 0x00628_0062E_0FC9E,
    0x00628_00645_0FC9F, 0x00628_00647_0FCA0, 0x0062A_0062C_0FCA1, 0x0062A_0062D_0FCA2,
    0x0062A_0062E_0FCA3, 0x0062A_00645_0FCA4, 0x0062A_00647_0FCA5, 0x0062B_00645_0FCA6,
    0x0062C_0062D_0FCA7, 0x0062C_00645_0FCA8, 0x0062D_0062C_0FCA9, 0x0062D_00645_0FCAA,
    0x0062E_0062C_0FCAB, 0x0062E_00645_0FCAC, 0x00633_0062C_0FCAD, 0x00633_0062D_0FCAE,
    0x00633_0062E_0FCAF, 0x00633_00645_0FCB0, 0x00635_0062D_0FCB1, 0x00635_0062E_0FCB2,
    0x00635_00645_0FCB3, 0x00636_0062C_0FCB4, 0x00636_0062D_0FCB5, 0x00636_0062E_0FCB6,
    0x00636_00645_0FCB7, 0x00637_0062D_0FCB8, 0x00638_00645_0FCB9, 0x00639_0062C_0FCBA,
    0x00639_00645_0FCBB, 0x0063A_0062C_0FCBC, 0x0063A_00645_0FCBD, 0x00641_0062C_0FCBE,
    0x00641_0062D_0FCBF, 0x00641_0062E_0FCC0, 0x00641_00645_0FCC1, 0x00642_0062D_0FCC2,
    0x00642_00645_0FCC3, 0x00643_0062C_0FCC4, 0x00643_0062D_0FCC5, 0x00643_0062E_0FCC6,
    0x00643_00644_0FCC7, 0x00643_00645_0FCC8, 0x00644_0062C_0FCC9, 0x00644_0062D_0FCCA,
    0x00644_0062E_0FCCB, 0x00644_00645_0FCCC, 0x00644_00647_0FCCD, 0x00645_0062C_0FCCE,
    0x00645_0062D_0FCCF, 0x00645_0062E_0FCD0, 0x00645_00645_0FCD1, 0x00646_0062C_0FCD2,
    0x00646_0062D_0FCD3, 0x00646_0062E_0FCD4, 0x00646_00645_0FCD5, 0x00646_00647_0FCD6,
    0x00647_0062C_0FCD7, 0x00647_00645_0FCD8, 0x00647_00670_0FCD9, 0x0064A_0062C_0FCDA,
    0x0064A_0062D_0FCDB, 0x0064A_0062E_0FCDC, 0x0064A_00645_0FCDD, 0x0064A_00647_0FCDE,
    0x0064A_00654_00645_0FCDF, 0x0064A_00654_00647_0FCE0, 0x00628_00645_0FCE1, 0x00628_00647_0FCE2,
    0x0062A_00645_0FCE3, 0x0062A_00647_0FCE4, 0x0062B_00645_0FCE5, 0x0062B_00647_0FCE6,
    0x00633_00645_0FCE7, 0x00633_00647_0FCE8, 0x00634_00645_0FCE9, 0x00634_00647_0FCEA,
    0x00643_00644_0FCEB, 0x00643_00645_0FCEC, 0x00644_00645_0FCED, 0x00646_00645_0FCEE,
    0x00646_00647_0FCEF, 0x0064A_00645_0FCF0, 0x0064A_00647_0FCF1, 0x00640_0064E_00651_0FCF2,
    0x00640_0064F_00651_0FCF3, 0x00640_00650_00651_0FCF4, 0x00637_00649_0FCF5, 0x00637_0064A_0FCF6,
    0x00639_00649_0FCF7, 0x00639_0064A_0FCF8, 0x0063A_00649_0FCF9, 0x0063A_0064A_0FCFA,
    0x00633_00649_0FCFB, 0x00633_0064A_0FCFC, 0x00634_00649_0FCFD, 0x00634_0064A_0FCFE,
    0x0062D_00649_0FCFF]),
  (0x0FD, [0x0062D_0064A_0FD00, 0x0062C_00649_0FD01, 0x0062C_0064A_0FD02, 0x0062E_00649_0FD03,
    0x0062E_0064A_0FD04, 0x00635_00649_0FD05, 0x00635_0064A_0FD06, 0x00636_00649_0FD07,
    0x00636_0064A_0FD08, 0x00634_0062C_0FD09, 0x00634_0062D_0FD0A, 0x00634_0062E_0FD0B,
    0x00634_00645_0FD0C, 0x00634_00631_0FD0D, 0x00633_00631_0FD0E, 0x00635_00631_0FD0F,
    0x00636_00631_0FD10, 0x00637_00649_0FD11, 0x00637_0064A_0FD12, 0x00639_00649_0FD13,
    0x00639_0064A_0FD14, 0x0063A_00649_0FD15, 0x0063A_0064A_0FD16, 0x00633_00649_0FD17,
    0x00633_0064A_0FD18, 0x00634_00649_0FD19, 0x00634_0064A_0FD1A, 0x0062D_00649_0FD1B,
    0x0062D_0064A_0FD1C, 0x0062C_00649_0FD1D, 0x0062C_0064A_0FD1E, 0x0062E_00649_0FD1F,
    0x0062E_0064A_0FD20, 0x00635_00649_0FD21, 0x00635_0064A_0FD22, 0x00636_00649_0FD23,
    0x00636_0064A_0FD24, 0x00634_0062C_0FD25, 0x00634_0062D_0FD26, 0x00634_0062E_0FD27,
    0x00634_00645_0FD28, 0x00634_00631_0FD29, 0x00633_00631_0FD2A, 0x00635_00631_0FD2B,
    0x00636_00631_0FD2C, 0x00634_0062C_0FD2D, 0x00634_0062D_0FD2E, 0x00634_0062E_0FD2F,
    0x00634_00645_0FD30, 0x00633_00647_0FD31, 0x00634_00647_0FD32, 0x00637_00645_0FD33,
    0x00633_0062C_0FD34, 0x00633_0062D_0FD35, 0x00633_0062E_0FD36, 0x00634_0062C_0FD37,
    0x00634_0062D_0FD38, 0x00634_0062E_0FD39, 0x00637_00645_0FD3A, 0x00638_00645_0FD3B,
    0x00627_0064B_0FD3C, 0x00627_0064B_0FD3D, 0x0062A_0062C_00645_0FD50, 0x0062A_0062D_0062C_0FD51,
    0x0062A_0062D_0062C_0FD52, 0x0062A_0062D_00645_0FD53, 0x0062A_0062E_00645_0FD54,
    0x0062A_00645_0062C_0FD55, 0x0062A_00645_0062D_0FD56, 0x0062A_00645_0062E_0FD57,
    0x0062C_00645_0062D_0FD58, 0x0062C_00645_0062D_0FD59, 0x0062D_00645_0064A_0FD5A,
    0x0062D_00645_00649_0FD5B, 0x00633_0062D_0062C_0FD5C, 0x00633_0062C_0062D_0FD5D,
    0x00633_0062C_00649_0FD5E, 0x00633_00645_0062D_0FD5F, 0x00633_00645_0062D_0FD60,
    0x00633_00645_0062C_0FD61, 0x00633_00645_00645_0FD62, 0x00633_00645_00645_0FD63,
    0x00635_0062D_0062D_0FD64, 0x00635_0062D_0062D_0FD65, 0x00635_00645_00645_0FD66,
    0x00634_0062D_00645_0FD67, 0x00634_0062D_00645_0FD68, 0x00634_0062C_0064A_0FD69,
    0x00634_00645_0062E_0FD6A, 0x00634_00645_0062E_0FD6B, 0x00634_00645_00645_0FD6C,
    0x00634_00645_00645_0FD6D, 0x00636_0062D_00649_0FD6E, 0x00636_0062E_00645_0FD6F,
    0x00636_0062E_00645_0FD70, 0x00637_00645_0062D_0FD71, 0x00637_00645_0062D_0FD72,
    0x00637_00645_00645_0FD73, 0x00637_00645_0064A_0FD74, 0x00639_0062C_00645_0FD75,
    0x00639_00645_00645_0FD76, 0x00639_00645_00645_0FD77, 0x00639_00645_00649_0FD78,
    0x0063A_00645_00645_0FD79, 0x0063A_00645_0064A_0FD7A, 0x0063A_00645_00649_0FD7B,
    0x00641_0062E_00645_0FD7C, 0x00641_0062E_00645_0FD7D, 0x00642_00645_0062D_0FD7E,
    0x00642_00645_00645_0FD7F, 0x00644_0062D_00645_0FD80, 0x00644_0062D_0064A_0FD81,
    0x00644_0062D_00649_0FD82, 0x00644_0062C_0062C_0FD83, 0x00644_0062C_0062C_0FD84,
    0x00644_0062E_00645_0FD85, 0x00644_0062E_00645_0FD86, 0x00644_00645_0062D_0FD87,
    0x00644_00645_0062D_0FD88, 0x00645_0062D_0062C_0FD89, 0x00645_0062D_00645_0FD8A,
    0x00645_0062D_0064A_0FD8B, 0x00645_0062C_0062D_0FD8C, 0x00645_0062C_00645_0FD8D,
    0x00645_0062E_0062C_0FD8E, 0x00645_0062E_00645_0FD8F, 0x00645_0062C_0062E_0FD92,
    0x00647_00645_0062C_0FD93, 0x00647_00645_00645_0FD94, 0x00646_0062D_00645_0FD95,
    0x00646_0062D_00649_0FD96, 0x00646_0062C_00645_0FD97, 0x00646_0062C_00645_0FD98,
    0x00646_0062C_00649_0FD99, 0x00646_00645_0064A_0FD9A, 0x00646_00645_00649_0FD9B,
    0x0064A_00645_00645_0FD9C, 0x0064A_00645_00645_0FD9D, 0x00628_0062E_0064A_0FD9E,
    0x0062A_0062C_0064A_0FD9F, 0x0062A_0062C_00649_0FDA0, 0x0062A_0062E_0064A_0FDA1,
    0x0062A_0062E_00649_0FDA2, 0x0062A_00645_0064A_0FDA3, 0x0062A_00645_00649_0FDA4,
    0x0062C_00645_0064A_0FDA5, 0x0062C_0062D_00649_0FDA6, 0x0062C_00645_00649_0FDA7,
    0x00633_0062E_00649_0FDA8, 0x00635_0062D_0064A_0FDA9, 0x00634_0062D_0064A_0FDAA,
    0x00636_0062D_0064A_0FDAB, 0x00644_0062C_0064A_0FDAC, 0x00644_00645_0064A_0FDAD,
    0x0064A_0062D_0064A_0FDAE, 0x0064A_0062C_0064A_0FDAF, 0x0064A_00645_0064A_0FDB0,
    0x00645_00645_0064A_0FDB1, 0x00642_00645_0064A_0FDB2, 0x00646_0062D_0064A_0FDB3,
    0x00642_00645_0062D_0FDB4, 0x00644_0062D_00645_0FDB5, 0x00639_00645_0064A_0FDB6,
    0x00643_00645_0064A_0FDB7, 0x00646_0062C_0062D_0FDB8, 0x00645_0062E_0064A_0FDB9,
    0x00644_0062C_00645_0FDBA, 0x00643_00645_00645_0FDBB, 0x00644_0062C_00645_0FDBC,
    0x00646_0062C_0062D_0FDBD, 0x0062C_0062D_0064A_0FDBE, 0x0062D_0062C_0064A_0FDBF,
    0x00645_0062C_0064A_0FDC0, 0x00641_00645_0064A_0FDC1, 0x00628_0062D_0064A_0FDC2,
    0x00643_00645_00645_0FDC3, 0x00639_0062C_00645_0FDC4, 0x00635_00645_00645_0FDC5,
    0x00633_0062E_0064A_0FDC6, 0x00646_0062C_0064A_0FDC7, 0x00635_00644_006D2_0FDF0,
    0x00642_00644_006D2_0FDF1, 0x00627_00644_00644_00647_0FDF2, 0x00627_00643_00628_00631_0FDF3,
    0x00645_0062D_00645_0062F_0FDF4, 0x00635_00644_00639_00645_0FDF5,
    0x00631_00633_00648_00644_0FDF6, 0x00639_00644_0064A_00647_0FDF7,
    0x00648_00633_00644_00645_0FDF8, 0x00635_00644_00649_0FDF9,
    0x00635_00644_00649_00020_00627_00644_00644_00647_00020_00639_00644_0064A_00647_00020_00648_00633_00644_00645_0FDFA,
    0x0062C_00644_00020_0062C_00644_00627_00644_00647_0FDFB, 0x00631_006CC_00627_00644_0FDFC]),
  (0x0FE, [0x0002C_0FE10, 0x03001_0FE11, 0x03002_0FE12, 0x0003A_0FE13, 0x0003B_0FE14, 0x00021_0FE15,
    0x0003F_0FE16, 0x03016_0FE17, 0x03017_0FE18, 0x0002E_0002E_0002E_0FE19, 0x0002E_0002E_0FE30,
    0x02014_0FE31, 0x02013_0FE32, 0x0005F_0FE33, 0x0005F_0FE34, 0x00028_0FE35, 0x00029_0FE36,
    0x0007B_0FE37, 0x0007D_0FE38, 0x03014_0FE39, 0x03015_0FE3A, 0x03010_0FE3B, 0x03011_0FE3C,
    0x0300A_0FE3D, 0x0300B_0FE3E, 0x03008_0FE3F, 0x03009_0FE40, 0x0300C_0FE41, 0x0300D_0FE42,
    0x0300E_0FE43, 0x0300F_0FE44, 0x0005B_0FE47, 0x0005D_0FE48, 0x00020_00305_0FE49,
    0x00020_00305_0FE4A, 0x00020_00305_0FE4B, 0x00020_00305_0FE4C, 0x0005F_0FE4D, 0x0005F_0FE4E,
    0x0005F_0FE4F, 0x0002C_0FE50, 0x03001_0FE51, 0x0002E_0FE52, 0x0003B_0FE54, 0x0003A_0FE55,
    0x0003F_0FE56, 0x00021_0FE57, 0x02014_0FE58, 0x00028_0FE59, 0x00029_0FE5A, 0x0007B_0FE5B,
    0x0007D_0FE5C, 0x03014_0FE5D, 0x03015_0FE5E, 0x00023_0FE5F, 0x00026_0FE60, 0x0002A_0FE61,
    0x0002B_0FE62, 0x0002D_0FE63, 0x0003C_0FE64, 0x0003E_0FE65, 0x0003D_0FE66, 0x0005C_0FE68,
    0x00024_0FE69, 0x00025_0FE6A, 0x00040_0FE6B, 0x00020_0064B_0FE70, 0x00640_0064B_0FE71,
    0x00020_0064C_0FE72, 0x00020_0064D_0FE74, 0x00020_0064E_0FE76, 0x00640_0064E_0FE77,
    0x00020_0064F_0FE78, 0x00640_0064F_0FE79, 0x00020_00650_0FE7A, 0x00640_00650_0FE7B,
    0x00020_00651_0FE7C, 0x00640_00651_0FE7D, 0x00020_00652_0FE7E, 0x00640_00652_0FE7F,
    0x00621_0FE80, 0x00627_00653_0FE81, 0x00627_00653_0FE82, 0x00627_00654_0FE83,
    0x00627_00654_0FE84, 0x00648_00654_0FE85, 0x00648_00654_0FE86, 0x00627_00655_0FE87,
    0x00627_00655_0FE88, 0x0064A_00654_0FE89, 0x0064A_00654_0FE8A, 0x0064A_00654_0FE8B,
    0x0064A_00654_0FE8C, 0x00627_0FE8D, 0x00627_0FE8E, 0x00628_0FE8F, 0x00628_0FE90, 0x00628_0FE91,
    0x00628_0FE92, 0x00629_0FE93, 0x00629_0FE94, 0x0062A_0FE95, 0x0062A_0FE96, 0x0062A_0FE97,
    0x0062A_0FE98, 0x0062B_0FE99, 0x0062B_0FE9A, 0x0062B_0FE9B, 0x0062B_0FE9C, 0x0062C_0FE9D,
    0x0062C_0FE9E, 0x0062C_0FE9F, 0x0062C_0FEA0, 0x0062D_0FEA1, 0x0062D_0FEA2, 0x0062D_0FEA3,
    0x0062D_0FEA4, 0x0062E_0FEA5, 0x0062E_0FEA6, 0x0062E_0FEA7, 0x0062E_0FEA8, 0x0062F_0FEA9,
    0x0062F_0FEAA, 0x00630_0FEAB, 0x00630_0FEAC, 0x00631_0FEAD, 0x00631_0FEAE, 0x00632_0FEAF,
    0x00632_0FEB0, 0x00633_0FEB1, 0x00633_0FEB2, 0x00633_0FEB3, 0x00633_0FEB4, 0x00634_0FEB5,
    0x00634_0FEB6, 0x00634_0FEB7, 0x00634_0FEB8, 0x00635_0FEB9, 0x00635_0FEBA, 0x00635_0FEBB,
    0x00635_0FEBC, 0x00636_0FEBD, 0x00636_0FEBE, 0x00636_0FEBF, 0x00636_0FEC0, 0x00637_0FEC1,
    0x00637_0FEC2, 0x00637_0FEC3, 0x00637_0FEC4, 0x00638_0FEC5, 0x00638_0FEC6, 0x00638_0FEC7,
    0x00638_0FEC8, 0x00639_0FEC9, 0x00639_0FECA, 0x00639_0FECB, 0x00639_0FECC, 0x0063A_0FECD,
    0x0063A_0FECE, 0x0063A_0FECF, 0x0063A_0FED0, 0x00641_0FED1, 0x00641_0FED2, 0x00641_0FED3,
    0x00641_0FED4, 0x00642_0FED5, 0x00642_0FED6, 0x00642_0FED7, 0x00642_0FED8, 0x00643_0FED9,
    0x00643_0FEDA, 0x00643_0FEDB, 0x00643_0FEDC, 0x00644_0FEDD, 0x00644_0FEDE, 0x00644_0FEDF,
    0x00644_0FEE0, 0x00645_0FEE1, 0x00645_0FEE2, 0x00645_0FEE3, 0x00645_0FEE4, 0x00646_0FEE5,
    0x00646_0FEE6, 0x00646_0FEE7, 0x00646_0FEE8, 0x00647_0FEE9, 0x00647_0FEEA, 0x00647_0FEEB,
    0x00647_0FEEC, 0x00648_0FEED, 0x00648_0FEEE, 0x00649_0FEEF, 0x00649_0FEF0, 0x0064A_0FEF1,
    0x0064A_0FEF2, 0x0064A_0FEF3, 0x0064A_0FEF4, 0x00644_00627_00653_0FEF5,
    0x00644_00627_00653_0FEF6, 0x00644_00627_00654_0FEF7, 0x00644_00627_00654_0FEF8,
    0x00644_00627_00655_0FEF9, 0x00644_00627_00655_0FEFA, 0x00644_00627_0FEFB, 0x00644_00627_0FEFC]),
  (0x0FF, [0x00021_0FF01, 0x00022_0FF02, 0x00023_0FF03, 0x00024_0FF04, 0x00025_0FF05, 0x00026_0FF06,
    0x00027_0FF07, 0x00028_0FF08, 0x00029_0FF09, 0x0002A_0FF0A, 0x0002B_0FF0B, 0x0002C_0FF0C,
    0x0002D_0FF0D, 0x0002E_0FF0E, 0x0002F_0FF0F, 0x00030_0FF10, 0x00031_0FF11, 0x00032_0FF12,
    0x00033_0FF13, 0x00034_0FF14, 0x00035_0FF15, 0x00036_0FF16, 0x00037_0FF17, 0x00038_0FF18,
    0x00039_0FF19, 0x0003A_0FF1A, 0x0003B_0FF1B, 0x0003C_0FF1C, 0x0003D_0FF1D, 0x0003E_0FF1E,
    0x0003F_0FF1F, 0x00040_0FF20, 0x00041_0FF21, 0x00042_0FF22, 0x00043_0FF23, 0x00044_0FF24,
    0x00045_0FF25, 0x00046_0FF26, 0x00047_0FF27, 0x00048_0FF28, 0x00049_0FF29, 0x0004A_0FF2A,
    0x0004B_0FF2B, 0x0004C_0FF2C, 0x0004D_0FF2D, 0x0004E_0FF2E, 0x0004F_0FF2F, 0x00050_0FF30,
    0x00051_0FF31, 0x00052_0FF32, 0x00053_0FF33, 0x00054_0FF34, 0x00055_0FF35, 0x00056_0FF36,
    0x00057_0FF37, 0x00058_0FF38, 0x00059_0FF39, 0x0005A_0FF3A, 0x0005B_0FF3B, 0x0005C_0FF3C,
    0x0005D_0FF3D, 0x0005E_0FF3E, 0x0005F_0FF3F, 0x00060_0FF40, 0x00061_0FF41, 0x00062_0FF42,
    0x00063_0FF43, 0x00064_0FF44, 0x00065_0FF45, 0x00066_0FF46, 0x00067_0FF47, 0x00068_0FF48,
    0x00069_0FF49, 0x0006A_0FF4A, 0x0006B_0FF4B, 0x0006C_0FF4C, 0x0006D_0FF4D, 0x0006E_0FF4E,
    0x0006F_0FF4F, 0x00070_0FF50, 0x00071_0FF51, 0x00072_0FF52, 0x00073_0FF53, 0x00074_0FF54,
    0x00075_0FF55, 0x00076_0FF56, 0x00077_0FF57, 0x00078_0FF58, 0x00079_0FF59, 0x0007A_0FF5A,
    0x0007B_0FF5B, 0x0007C_0FF5C, 0x0007D_0FF5D, 0x0007E_0FF5E, 0x02985_0FF5F, 0x02986_0FF60,
    0x03002_0FF61, 0x0300C_0FF62, 0x0300D_0FF63, 0x03001_0FF64, 0x030FB_0FF65, 0x030F2_0FF66,
    0x030A1_0FF67, 0x030A3_0FF68, 0x030A5_0FF69, 0x030A7_0FF6A, 0x030A9_0FF6B, 0x030E3_0FF6C,
    0x030E5_0FF6D, 0x030E7_0FF6E, 0x030C3_0FF6F, 0x030FC_0FF70, 0x030A2_0FF71, 0x030A4_0FF72,
    0x030A6_0FF73, 0x030A8_0FF74, 0x030AA_0FF75, 0x030AB_0FF76, 0x030AD_0FF77, 0x030AF_0FF78,
    0x030B1_0FF79, 0x030B3_0FF7A, 0x030B5_0FF7B, 0x030B7_0FF7C, 0x030B9_0FF7D, 0x030BB_0FF7E,
    0x030BD_0FF7F, 0x030BF_0FF80, 0x030C1_0FF81, 0x030C4_0FF82, 0x030C6_0FF83, 0x030C8_0FF84,
    0x030CA_0FF85, 0x030CB_0FF86, 0x030CC_0FF87, 0x030CD_0FF88, 0x030CE_0FF89, 0x030CF_0FF8A,
    0x030D2_0FF8B, 0x030D5_0FF8C, 0x030D8_0FF8D, 0x030DB_0FF8E, 0x030DE_0FF8F, 0x030DF_0FF90,
    0x030E0_0FF91, 0x030E1_0FF92, 0x030E2_0FF93, 0x030E4_0FF94, 0x030E6_0FF95, 0x030E8_0FF96,
    0x030E9_0FF97, 0x030EA_0FF98, 0x030EB_0FF99, 0x030EC_0FF9A, 0x030ED_0FF9B, 0x030EF_0FF9C,
    0x030F3_0FF9D, 0x03099_0FF9E, 0x0309A_0FF9F, 0x01160_0FFA0, 0x01100_0FFA1, 0x01101_0FFA2,
    0x011AA_0FFA3, 0x01102_0FFA4, 0x011AC_0FFA5, 0x011AD_0FFA6, 0x01103_0FFA7, 0x01104_0FFA8,
    0x01105_0FFA9, 0x011B0_0FFAA, 0x011B1_0FFAB, 0x011B2_0FFAC, 0x011B3_0FFAD, 0x011B4_0FFAE,
    0x011B5_0FFAF, 0x0111A_0FFB0, 0x01106_0FFB1, 0x01107_0FFB2, 0x01108_0FFB3, 0x01121_0FFB4,
    0x01109_0FFB5, 0x0110A_0FFB6, 0x0110B_0FFB7, 0x0110C_0FFB8, 0x0110D_0FFB9, 0x0110E_0FFBA,
    0x0110F_0FFBB, 0x01110_0FFBC, 0x01111_0FFBD, 0x01112_0FFBE, 0x01161_0FFC2, 0x01162_0FFC3,
    0x01163_0FFC4, 0x01164_0FFC5, 0x01165_0FFC6, 0x01166_0FFC7, 0x01167_0FFCA, 0x01168_0FFCB,
    0x01169_0FFCC, 0x0116A_0FFCD, 0x0116B_0FFCE, 0x0116C_0FFCF, 0x0116D_0FFD2, 0x0116E_0FFD3,
    0x0116F_0FFD4, 0x01170_0FFD5, 0x01171_0FFD6, 0x01172_0FFD7, 0x01173_0FFDA, 0x01174_0FFDB,
    0x01175_0FFDC, 0x000A2_0FFE0, 0x000A3_0FFE1, 0x000AC_0FFE2, 0x00020_00304_0FFE3, 0x000A6_0FFE4,
    0x000A5_0FFE5, 0x020A9_0FFE6, 0x02502_0FFE8, 0x02190_0FFE9, 0x02191_0FFEA, 0x02192_0FFEB,
    0x02193_0FFEC, 0x025A0_0FFED, 0x025CB_0FFEE]),
  (0x107, [0x002D0_10781, 0x002D1_10782, 0x000E6_10783, 0x00299_10784, 0x00253_10785, 0x002A3_10787,
    0x0AB66_10788, 0x002A5_10789, 0x002A4_1078A, 0x00256_1078B, 0x00257_1078C, 0x01D91_1078D,
    0x00258_1078E, 0x0025E_1078F, 0x002A9_10790, 0x00264_10791, 0x00262_10792, 0x00260_10793,
    0x0029B_10794, 0x00127_10795, 0x0029C_10796, 0x00267_10797, 0x00284_10798, 0x002AA_10799,
    0x002AB_1079A, 0x0026C_1079B, 0x1DF04_1079C, 0x0A78E_1079D, 0x0026E_1079E, 0x1DF05_1079F,
    0x0028E_107A0, 0x1DF06_107A1, 0x000F8_107A2, 0x00276_107A3, 0x00277_107A4, 0x00071_107A5,
    0x0027A_107A6, 0x1DF08_107A7, 0x0027D_107A8, 0x0027E_107A9, 0x00280_107AA, 0x002A8_107AB,
    0x002A6_107AC, 0x0AB67_107AD, 0x002A7_107AE, 0x00288_107AF, 0x02C71_107B0, 0x0028F_107B2,
    0x002A1_107B3, 0x002A2_107B4, 0x00298_107B5, 0x001C0_107B6, 0x001C1_107B7, 0x001C2_107B8,
    0x1DF0A_107B9, 0x1DF1E_107BA]),
  (0x110, [0x11099_110BA_1109A, 0x1109B_110BA_1109C, 0x110A5_110BA_110AB]),
  (0x111, [0x11131_11127_1112E, 0x11132_11127_1112F]),
  (0x113, [0x11347_1133E_1134B, 0x11347_11357_1134C]),
  (0x114, [0x114B9_114BA_114BB, 0x114B9_114B0_114BC, 0x114B9_114BD_114BE]),
  (0x115, [0x115B8_115AF_115BA, 0x115B9_115AF_115BB]),
  (0x119, [0x11935_11930_11938]),
  (0x1D1, [
    0x1D157_1D165_1D15E, 0x1D158_1D165_1D15F, 0x1D158_1D165_1D16E_1D160, 0x1D158_1D165_1D16F_1D161,
    0x1D158_1D165_1D170_1D162, 0x1D158_1D165_1D171_1D163, 0x1D158_1D165_1D172_1D164,
    0x1D1B9_1D165_1D1BB, 0x1D1BA_1D165_1D1BC, 0x1D1B9_1D165_1D16E_1D1BD, 0x1D1BA_1D165_1D16E_1D1BE,
    0x1D1B9_1D165_1D16F_1D1BF, 0x1D1BA_1D165_1D16F_1D1C0]),
  (0x1D4, [0x00041_1D400, 0x00042_1D401, 0x00043_1D402, 0x00044_1D403, 0x00045_1D404, 0x00046_1D405,
    0x00047_1D406, 0x00048_1D407, 0x00049_1D408, 0x0004A_1D409, 0x0004B_1D40A, 0x0004C_1D40B,
    0x0004D_1D40C, 0x0004E_1D40D, 0x0004F_1D40E, 0x00050_1D40F, 0x00051_1D410, 0x00052_1D411,
    0x00053_1D412, 0x00054_1D413, 0x00055_1D414, 0x00056_1D415, 0x00057_1D416, 0x00058_1D417,
    0x00059_1D418, 0x0005A_1D419, 0x00061_1D41A, 0x00062_1D41B, 0x00063_1D41C, 0x00064_1D41D,
    0x00065_1D41E, 0x00066_1D41F, 0x00067_1D420, 0x00068_1D421, 0x00069_1D422, 0x0006A_1D423,
    0x0006B_1D424, 0x0006C_1D425, 0x0006D_1D426, 0x0006E_1D427, 0x0006F_1D428, 0x00070_1D429,
    0x00071_1D42A, 0x00072_1D42B, 0x00073_1D42C, 0x00074_1D42D, 0x00075_1D42E, 0x00076_1D42F,
    0x00077_1D430, 0x00078_1D431, 0x00079_1D432, 0x0007A_1D433, 0x00041_1D434, 0x00042_1D435,
    0x00043_1D436, 0x00044_1D437, 0x00045_1D438, 0x00046_1D439, 0x00047_1D43A, 0x00048_1D43B,
    0x00049_1D43C, 0x0004A_1D43D, 0x0004B_1D43E, 0x0004C_1D43F, 0x0004D_1D440, 0x0004E_1D441,
    0x0004F_1D442, 0x00050_1D443, 0x00051_1D444, 0x00052_1D445, 0x00053_1D446, 0x00054_1D447,
    0x00055_1D448, 0x00056_1D449, 0x00057_1D44A, 0x00058_1D44B, 0x00059_1D44C, 0x0005A_1D44D,
    0x00061_1D44E, 0x00062_1D44F, 0x00063_1D450, 0x00064_1D451, 0x00065_1D452, 0x00066_1D453,
    0x00067_1D454, 0x00069_1D456, 0x0006A_1D457, 0x0006B_1D458, 0x0006C_1D459, 0x0006D_1D45A,
    0x0006E_1D45B, 0x0006F_1D45C, 0x00070_1D45D, 0x00071_1D45E, 0x00072_1D45F, 0x00073_1D460,
    0x00074_1D461, 0x00075_1D462, 0x00076_1D463, 0x00077_1D464, 0x00078_1D465, 0x00079_1D466,
    0x0007A_1D467, 0x00041_1D468, 0x00042_1D469, 0x00043_1D46A, 0x00044_1D46B, 0x00045_1D46C,
    0x00046_1D46D, 0x00047_1D46E, 0x00048_1D46F, 0x00049_1D470, 0x0004A_1D471, 0x0004B_1D472,
    0x0004C_1D473, 0x0004D_1D474, 0x0004E_1D475, 0x0004F_1D476, 0x00050_1D477, 0x00051_1D478,
    0x00052_1D479, 0x00053_1D47A, 0x00054_1D47B, 0x00055_1D47C, 0x00056_1D47D, 0x00057_1D47E,
    0x00058_1D47F, 0x00059_1D480, 0x0005A_1D481, 0x00061_1D482, 0x00062_1D483, 0x00063_1D484,
    0x00064_1D485, 0x00065_1D486, 0x00066_1D487, 0x00067_1D488, 0x00068_1D489, 0x00069_1D48A,
    0x0006A_1D48B, 0x0006B_1D48C, 0x0006C_1D48D, 0x0006D_1D48E, 0x0006E_1D48F, 0x0006F_1D490,
    0x00070_1D491, 0x00071_1D492, 0x00072_1D493, 0x00073_1D494, 0x00074_1D495, 0x00075_1D496,
    0x00076_1D497, 0x00077_1D498, 0x00078_1D499, 0x00079_1D49A, 0x0007A_1D49B, 0x00041_1D49C,
    0x00043_1D49E, 0x00044_1D49F, 0x00047_1D4A2, 0x0004A_1D4A5, 0x0004B_1D4A6, 0x0004E_1D4A9,
    0x0004F_1D4AA, 0x00050_1D4AB, 0x00051_1D4AC, 0x00053_1D4AE, 0x00054_1D4AF, 0x00055_1D4B0,
    0x00056_1D4B1, 0x00057_1D4B2, 0x00058_1D4B3, 0x00059_1D4B4, 0x0005A_1D4B5, 0x00061_1D4B6,
    0x00062_1D4B7, 0x00063_1D4B8, 0x00064_1D4B9, 0x00066_1D4BB, 0x00068_1D4BD, 0x00069_1D4BE,
    0x0006A_1D4BF, 0x0006B_1D4C0, 0x0006C_1D4C1, 0x0006D_1D4C2, 0x0006E_1D4C3, 0x00070_1D4C5,
    0x00071_1D4C6, 0x00072_1D4C7, 0x00073_1D4C8, 0x00074_1D4C9, 0x00075_1D4CA, 0x00076_1D4CB,
    0x00077_1D4CC, 0x00078_1D4CD, 0x00079_1D4CE, 0x0007A_1D4CF, 0x00041_1D4D0, 0x00042_1D4D1,
    0x00043_1D4D2, 0x00044_1D4D3, 0x00045_1D4D4, 0x00046_1D4D5, 0x00047_1D4D6, 0x00048_1D4D7,
    0x00049_1D4D8, 0x0004A_1D4D9, 0x0004B_1D4DA, 0x0004C_1D4DB, 0x0004D_1D4DC, 0x0004E_1D4DD,
    0x0004F_1D4DE, 0x00050_1D4DF, 0x00051_1D4E0, 0x00052_1D4E1, 0x00053_1D4E2, 0x00054_1D4E3,
    0x00055_1D4E4, 0x00056_1D4E5, 0x00057_1D4E6, 0x00058_1D4E7, 0x00059_1D4E8, 0x0005A_1D4E9,
    0x00061_1D4EA, 0x00062_1D4EB, 0x00063_1D4EC, 0x00064_1D4ED, 0x00065_1D4EE, 0x00066_1D4EF,
    0x00067_1D4F0, 0x00068_1D4F1, 0x00069_1D4F2, 0x0006A_1D4F3, 0x0006B_1D4F4, 0x0006C_1D4F5,
    0x0006D_1D4F6, 0x0006E_1D4F7, 0x0006F_1D4F8, 0x00070_1D4F9, 0x00071_1D4FA, 0x00072_1D4FB,
    0x00073_1D4FC, 0x00074_1D4FD, 0x00075_1D4FE, 0x00076_1D4FF]),
  (0x1D5, [0x00077_1D500, 0x00078_1D501, 0x00079_1D502, 0x0007A_1D503, 0x00041_1D504, 0x00042_1D505,
    0x00044_1D507, 0x00045_1D508, 0x00046_1D509, 0x00047_1D50A, 0x0004A_1D50D, 0x0004B_1D50E,
    0x0004C_1D50F, 0x0004D_1D510, 0x0004E_1D511, 0x0004F_1D512, 0x00050_1D513, 0x00051_1D514,
    0x00053_1D516, 0x00054_1D517, 0x00055_1D518, 0x00056_1D519, 0x00057_1D51A, 0x00058_1D51B,
    0x00059_1D51C, 0x00061_1D51E, 0x00062_1D51F, 0x00063_1D520, 0x00064_1D521, 0x00065_1D522,
    0x00066_1D523, 0x00067_1D524, 0x00068_1D525, 0x00069_1D526, 0x0006A_1D527, 0x0006B_1D528,
    0x0006C_1D529, 0x0006D_1D52A, 0x0006E_1D52B, 0x0006F_1D52C, 0x00070_1D52D, 0x00071_1D52E,
    0x00072_1D52F, 0x00073_1D530, 0x00074_1D531, 0x00075_1D532, 0x00076_1D533, 0x00077_1D534,
    0x00078_1D535, 0x00079_1D536, 0x0007A_1D537, 0x00041_1D538, 0x00042_1D539, 0x00044_1D53B,
    0x00045_1D53C, 0x00046_1D53D, 0x00047_1D53E, 0x00049_1D540, 0x0004A_1D541, 0x0004B_1D542,
    0x0004C_1D543, 0x0004D_1D544, 0x0004F_1D546, 0x00053_1D54A, 0x00054_1D54B, 0x00055_1D54C,
    0x00056_1D54D, 0x00057_1D54E, 0x00058_1D54F, 0x00059_1D550, 0x00061_1D552, 0x00062_1D553,
    0x00063_1D554, 0x00064_1D555, 0x00065_1D556, 0x00066_1D557, 0x00067_1D558, 0x00068_1D559,
    0x00069_1D55A, 0x0006A_1D55B, 0x0006B_1D55C, 0x0006C_1D55D, 0x0006D_1D55E, 0x0006E_1D55F,
    0x0006F_1D560, 0x00070_1D561, 0x00071_1D562, 0x00072_1D563, 0x00073_1D564, 0x00074_1D565,
    0x00075_1D566, 0x00076_1D567, 0x00077_1D568, 0x00078_1D569, 0x00079_1D56A, 0x0007A_1D56B,
    0x00041_1D56C, 0x00042_1D56D, 0x00043_1D56E, 0x00044_1D56F, 0x00045_1D570, 0x00046_1D571,
    0x00047_1D572, 0x00048_1D573, 0x00049_1D574, 0x0004A_1D575, 0x0004B_1D576, 0x0004C_1D577,
    0x0004D_1D578, 0x0004E_1D579, 0x0004F_1D57A, 0x00050_1D57B, 0x00051_1D57C, 0x00052_1D57D,
    0x00053_1D57E, 0x00054_1D57F, 0x00055_1D580, 0x00056_1D581, 0x00057_1D582, 0x00058_1D583,
    0x00059_1D584, 0x0005A_1D585, 0x00061_1D586, 0x00062_1D587, 0x00063_1D588, 0x00064_1D589,
    0x00065_1D58A, 0x00066_1D58B, 0x00067_1D58C, 0x00068_1D58D, 0x00069_1D58E, 0x0006A_1D58F,
    0x0006B_1D590, 0x0006C_1D591, 0x0006D_1D592, 0x0006E_1D593, 0x0006F_1D594, 0x00070_1D595,
    0x00071_1D596, 0x00072_1D597, 0x00073_1D598, 0x00074_1D599, 0x00075_1D59A, 0x00076_1D59B,
    0x00077_1D59C, 0x00078_1D59D, 0x00079_1D59E, 0x0007A_1D59F, 0x00041_1D5A0, 0x00042_1D5A1,
    0x00043_1D5A2, 0x00044_1D5A3, 0x00045_1D5A4, 0x00046_1D5A5, 0x00047_1D5A6, 0x00048_1D5A7,
    0x00049_1D5A8, 0x0004A_1D5A9, 0x0004B_1D5AA, 0x0004C_1D5AB, 0x0004D_1D5AC, 0x0004E_1D5AD,
    0x0004F_1D5AE, 0x00050_1D5AF, 0x00051_1D5B0, 0x00052_1D5B1, 0x00053_1D5B2, 0x00054_1D5B3,
    0x00055_1D5B4, 0x00056_1D5B5, 0x00057_1D5B6, 0x00058_1D5B7, 0x00059_1D5B8, 0x0005A_1D5B9,
    0x00061_1D5BA, 0x00062_1D5BB, 0x00063_1D5BC, 0x00064_1D5BD, 0x00065_1D5BE, 0x00066_1D5BF,
    0x00067_1D5C0, 0x00068_1D5C1, 0x00069_1D5C2, 0x0006A_1D5C3, 0x0006B_1D5C4, 0x0006C_1D5C5,
    0x0006D_1D5C6, 0x0006E_1D5C7, 0x0006F_1D5C8, 0x00070_1D5C9, 0x00071_1D5CA, 0x00072_1D5CB,
    0x00073_1D5CC, 0x00074_1D5CD, 0x00075_1D5CE, 0x00076_1D5CF, 0x00077_1D5D0, 0x00078_1D5D1,
    0x00079_1D5D2, 0x0007A_1D5D3, 0x00041_1D5D4, 0x00042_1D5D5, 0x00043_1D5D6, 0x00044_1D5D7,
    0x00045_1D5D8, 0x00046_1D5D9, 0x00047_1D5DA, 0x00048_1D5DB, 0x00049_1D5DC, 0x0004A_1D5DD,
    0x0004B_1D5DE, 0x0004C_1D5DF, 0x0004D_1D5E0, 0x0004E_1D5E1, 0x0004F_1D5E2, 0x00050_1D5E3,
    0x00051_1D5E4, 0x00052_1D5E5, 0x00053_1D5E6, 0x00054_1D5E7, 0x00055_1D5E8, 0x00056_1D5E9,
    0x00057_1D5EA, 0x00058_1D5EB, 0x00059_1D5EC, 0x0005A_1D5ED, 0x00061_1D5EE, 0x00062_1D5EF,
    0x00063_1D5F0, 0x00064_1D5F1, 0x00065_1D5F2, 0x00066_1D5F3, 0x00067_1D5F4, 0x00068_1D5F5,
    0x00069_1D5F6, 0x0006A_1D5F7, 0x0006B_1D5F8, 0x0006C_1D5F9, 0x0006D_1D5FA, 0x0006E_1D5FB,
    0x0006F_1D5FC, 0x00070_1D5FD, 0x00071_1D5FE, 0x00072_1D5FF]),
  (0x1D6, [0x00073_1D600, 0x00074_1D601, 0x00075_1D602, 0x00076_1D603, 0x00077_1D604, 0x00078_1D605,
    0x00079_1D606, 0x0007A_1D607, 0x00041_1D608, 0x00042_1D609, 0x00043_1D60A, 0x00044_1D60B,
    0x00045_1D60C, 0x00046_1D60D, 0x00047_1D60E, 0x00048_1D60F, 0x00049_1D610, 0x0004A_1D611,
    0x0004B_1D612, 0x0004C_1D613, 0x0004D_1D614, 0x0004E_1D615, 0x0004F_1D616, 0x00050_1D617,
    0x00051_1D618, 0x00052_1D619, 0x00053_1D61A, 0x00054_1D61B, 0x00055_1D61C, 0x00056_1D61D,
    0x00057_1D61E, 0x00058_1D61F, 0x00059_1D620, 0x0005A_1D621, 0x00061_1D622, 0x00062_1D623,
    0x00063_1D624, 0x00064_1D625, 0x00065_1D626, 0x00066_1D627, 0x00067_1D628, 0x00068_1D629,
    0x00069_1D62A, 0x0006A_1D62B, 0x0006B_1D62C, 0x0006C_1D62D, 0x0006D_1D62E, 0x0006E_1D62F,
    0x0006F_1D630, 0x00070_1D631, 0x00071_1D632, 0x00072_1D633, 0x00073_1D634, 0x00074_1D635,
    0x00075_1D636, 0x00076_1D637, 0x00077_1D638, 0x00078_1D639, 0x00079_1D63A, 0x0007A_1D63B,
    0x00041_1D63C, 0x00042_1D63D, 0x00043_1D63E, 0x00044_1D63F, 0x00045_1D640, 0x00046_1D641,
    0x00047_1D642, 0x00048_1D643, 0x00049_1D644, 0x0004A_1D645, 0x0004B_1D646, 0x0004C_1D647,
    0x0004D_1D648, 0x0004E_1D649, 0x0004F_1D64A, 0x00050_1D64B, 0x00051_1D64C, 0x00052_1D64D,
    0x00053_1D64E, 0x00054_1D64F, 0x00055_1D650, 0x00056_1D651, 0x00057_1D652, 0x00058_1D653,
    0x00059_1D654, 0x0005A_1D655, 0x00061_1D656, 0x00062_1D657, 0x00063_1D658, 0x00064_1D659,
    0x00065_1D65A, 0x00066_1D65B, 0x00067_1D65C, 0x00068_1D65D, 0x00069_1D65E, 0x0006A_1D65F,
    0x0006B_1D660, 0x0006C_1D661, 0x0006D_1D662, 0x0006E_1D663, 0x0006F_1D664, 0x00070_1D665,
    0x00071_1D666, 0x00072_1D667, 0x00073_1D668, 0x00074_1D669, 0x00075_1D66A, 0x00076_1D66B,
    0x00077_1D66C, 0x00078_1D66D, 0x00079_1D66E, 0x0007A_1D66F, 0x00041_1D670, 0x00042_1D671,
    0x00043_1D672, 0x00044_1D673, 0x00045_1D674, 0x00046_1D675, 0x00047_1D676, 0x00048_1D677,
    0x00049_1D678, 0x0004A_1D679, 0x0004B_1D67A, 0x0004C_1D67B, 0x0004D_1D67C, 0x0004E_1D67D,
    0x0004F_1D67E, 0x00050_1D67F, 0x00051_1D680, 0x00052_1D681, 0x00053_1D682, 0x00054_1D683,
    0x00055_1D684, 0x00056_1D685, 0x00057_1D686, 0x00058_1D687, 0x00059_1D688, 0x0005A_1D689,
    0x00061_1D68A, 0x00062_1D68B, 0x00063_1D68C, 0x00064_1D68D, 0x00065_1D68E, 0x00066_1D68F,
    0x00067_1D690, 0x00068_1D691, 0x00069_1D692, 0x0006A_1D693, 0x0006B_1D694, 0x0006C_1D695,
    0x0006D_1D696, 0x0006E_1D697, 0x0006F_1D698, 0x00070_1D699, 0x00071_1D69A, 0x00072_1D69B,
    0x00073_1D69C, 0x00074_1D69D, 0x00075_1D69E, 0x00076_1D69F, 0x00077_1D6A0, 0x00078_1D6A1,
    0x00079_1D6A2, 0x0007A_1D6A3, 0x00131_1D6A4, 0x00237_1D6A5, 0x00391_1D6A8, 0x00392_1D6A9,
    0x00393_1D6AA, 0x00394_1D6AB, 0x00395_1D6AC, 0x00396_1D6AD, 0x00397_1D6AE, 0x00398_1D6AF,
    0x00399_1D6B0, 0x0039A_1D6B1, 0x0039B_1D6B2, 0x0039C_1D6B3, 0x0039D_1D6B4, 0x0039E_1D6B5,
    0x0039F_1D6B6, 0x003A0_1D6B7, 0x003A1_1D6B8, 0x00398_1D6B9, 0x003A3_1D6BA, 0x003A4_1D6BB,
    0x003A5_1D6BC, 0x003A6_1D6BD, 0x003A7_1D6BE, 0x003A8_1D6BF, 0x003A9_1D6C0, 0x02207_1D6C1,
    0x003B1_1D6C2, 0x003B2_1D6C3, 0x003B3_1D6C4, 0x003B4_1D6C5, 0x003B5_1D6C6, 0x003B6_1D6C7,
    0x003B7_1D6C8, 0x003B8_1D6C9, 0x003B9_1D6CA, 0x003BA_1D6CB, 0x003BB_1D6CC, 0x003BC_1D6CD,
    0x003BD_1D6CE, 0x003BE_1D6CF, 0x003BF_1D6D0, 0x003C0_1D6D1, 0x003C1_1D6D2, 0x003C2_1D6D3,
    0x003C3_1D6D4, 0x003C4_1D6D5, 0x003C5_1D6D6, 0x003C6_1D6D7, 0x003C7_1D6D8, 0x003C8_1D6D9,
    0x003C9_1D6DA, 0x02202_1D6DB, 0x003B5_1D6DC, 0x003B8_1D6DD, 0x003BA_1D6DE, 0x003C6_1D6DF,
    0x003C1_1D6E0, 0x003C0_1D6E1, 0x00391_1D6E2, 0x00392_1D6E3, 0x00393_1D6E4, 0x00394_1D6E5,
    0x00395_1D6E6, 0x00396_1D6E7, 0x00397_1D6E8, 0x00398_1D6E9, 0x00399_1D6EA, 0x0039A_1D6EB,
    0x0039B_1D6EC, 0x0039C_1D6ED, 0x0039D_1D6EE, 0x0039E_1D6EF, 0x0039F_1D6F0, 0x003A0_1D6F1,
    0x003A1_1D6F2, 0x00398_1D6F3, 0x003A3_1D6F4, 0x003A4_1D6F5, 0x003A5_1D6F6, 0x003A6_1D6F7,
    0x003A7_1D6F8, 0x003A8_1D6F9, 0x003A9_1D6FA, 0x02207_1D6FB, 0x003B1_1D6FC, 0x003B2_1D6FD,
    0x003B3_1D6FE, 0x003B4_1D6FF]),
  (0x1D7, [0x003B5_1D700, 0x003B6_1D701, 0x003B7_1D702, 0x003B8_1D703, 0x003B9_1D704, 0x003BA_1D705,
    0x003BB_1D706, 0x003BC_1D707, 0x003BD_1D708, 0x003BE_1D709, 0x003BF_1D70A, 0x003C0_1D70B,
    0x003C1_1D70C, 0x003C2_1D70D, 0x003C3_1D70E, 0x003C4_1D70F, 0x003C5_1D710, 0x003C6_1D711,
    0x003C7_1D712, 0x003C8_1D713, 0x003C9_1D714, 0x02202_1D715, 0x003B5_1D716, 0x003B8_1D717,
    0x003BA_1D718, 0x003C6_1D719, 0x003C1_1D71A, 0x003C0_1D71B, 0x00391_1D71C, 0x00392_1D71D,
    0x00393_1D71E, 0x00394_1D71F, 0x00395_1D720, 0x00396_1D721, 0x00397_1D722, 0x00398_1D723,
    0x00399_1D724, 0x0039A_1D725, 0x0039B_1D726, 0x0039C_1D727, 0x0039D_1D728, 0x0039E_1D729,
    0x0039F_1D72A, 0x003A0_1D72B, 0x003A1_1D72C, 0x00398_1D72D, 0x003A3_1D72E, 0x003A4_1D72F,
    0x003A5_1D730, 0x003A6_1D731, 0x003A7_1D732, 0x003A8_1D733, 0x003A9_1D734, 0x02207_1D735,
    0x003B1_1D736, 0x003B2_1D737, 0x003B3_1D738, 0x003B4_1D739, 0x003B5_1D73A, 0x003B6_1D73B,
    0x003B7_1D73C, 0x003B8_1D73D, 0x003B9_1D73E, 0x003BA_1D73F, 0x003BB_1D740, 0x003BC_1D741,
    0x003BD_1D742, 0x003BE_1D743, 0x003BF_1D744, 0x003C0_1D745, 0x003C1_1D746, 0x003C2_1D747,
    0x003C3_1D748, 0x003C4_1D749, 0x003C5_1D74A, 0x003C6_1D74B, 0x003C7_1D74C, 0x003C8_1D74D,
    0x003C9_1D74E, 0x02202_1D74F, 0x003B5_1D750, 0x003B8_1D751, 0x003BA_1D752, 0x003C6_1D753,
    0x003C1_1D754, 0x003C0_1D755, 0x00391_1D756, 0x00392_1D757, 0x00393_1D758, 0x00394_1D759,
    0x00395_1D75A, 0x00396_1D75B, 0x00397_1D75C, 0x00398_1D75D, 0x00399_1D75E, 0x0039A_1D75F,
    0x0039B_1D760, 0x0039C_1D761, 0x0039D_1D762, 0x0039E_1D763, 0x0039F_1D764, 0x003A0_1D765,
    0x003A1_1D766, 0x00398_1D767, 0x003A3_1D768, 0x003A4_1D769, 0x003A5_1D76A, 0x003A6_1D76B,
    0x003A7_1D76C, 0x003A8_1D76D, 0x003A9_1D76E, 0x02207_1D76F, 0x003B1_1D770, 0x003B2_1D771,
    0x003B3_1D772, 0x003B4_1D773, 0x003B5_1D774, 0x003B6_1D775, 0x003B7_1D776, 0x003B8_1D777,
    0x003B9_1D778, 0x003BA_1D779, 0x003BB_1D77A, 0x003BC_1D77B, 0x003BD_1D77C, 0x003BE_1D77D,
    0x003BF_1D77E, 0x003C0_1D77F, 0x003C1_1D780, 0x003C2_1D781, 0x003C3_1D782, 0x003C4_1D783,
    0x003C5_1D784, 0x003C6_1D785, 0x003C7_1D786, 0x003C8_1D787, 0x003C9_1D788, 0x02202_1D789,
    0x003B5_1D78A, 0x003B8_1D78B, 0x003BA_1D78C, 0x003C6_1D78D, 0x003C1_1D78E, 0x003C0_1D78F,
    0x00391_1D790, 0x00392_1D791, 0x00393_1D792, 0x00394_1D793, 0x00395_1D794, 0x00396_1D795,
    0x00397_1D796, 0x00398_1D797, 0x00399_1D798, 0x0039A_1D799, 0x0039B_1D79A, 0x0039C_1D79B,
    0x0039D_1D79C, 0x0039E_1D79D, 0x0039F_1D79E, 0x003A0_1D79F, 0x003A1_1D7A0, 0x00398_1D7A1,
    0x003A3_1D7A2, 0x003A4_1D7A3, 0x003A5_1D7A4, 0x003A6_1D7A5, 0x003A7_1D7A6, 0x003A8_1D7A7,
    0x003A9_1D7A8, 0x02207_1D7A9, 0x003B1_1D7AA, 0x003B2_1D7AB, 0x003B3_1D7AC, 0x003B4_1D7AD,
    0x003B5_1D7AE, 0x003B6_1D7AF, 0x003B7_1D7B0, 0x003B8_1D7B1, 0x003B9_1D7B2, 0x003BA_1D7B3,
    0x003BB_1D7B4, 0x003BC_1D7B5, 0x003BD_1D7B6, 0x003BE_1D7B7, 0x003BF_1D7B8, 0x003C0_1D7B9,
    0x003C1_1D7BA, 0x003C2_1D7BB, 0x003C3_1D7BC, 0x003C4_1D7BD, 0x003C5_1D7BE, 0x003C6_1D7BF,
    0x003C7_1D7C0, 0x003C8_1D7C1, 0x003C9_1D7C2, 0x02202_1D7C3, 0x003B5_1D7C4, 0x003B8_1D7C5,
    0x003BA_1D7C6, 0x003C6_1D7C7, 0x003C1_1D7C8, 0x003C0_1D7C9, 0x003DC_1D7CA, 0x003DD_1D7CB,
    0x00030_1D7CE, 0x00031_1D7CF, 0x00032_1D7D0, 0x00033_1D7D1, 0x00034_1D7D2, 0x00035_1D7D3,
    0x00036_1D7D4, 0x00037_1D7D5, 0x00038_1D7D6, 0x00039_1D7D7, 0x00030_1D7D8, 0x00031_1D7D9,
    0x00032_1D7DA, 0x00033_1D7DB, 0x00034_1D7DC, 0x00035_1D7DD, 0x00036_1D7DE, 0x00037_1D7DF,
    0x00038_1D7E0, 0x00039_1D7E1, 0x00030_1D7E2, 0x00031_1D7E3, 0x00032_1D7E4, 0x00033_1D7E5,
    0x00034_1D7E6, 0x00035_1D7E7, 0x00036_1D7E8, 0x00037_1D7E9, 0x00038_1D7EA, 0x00039_1D7EB,
    0x00030_1D7EC, 0x00031_1D7ED, 0x00032_1D7EE, 0x00033_1D7EF, 0x00034_1D7F0, 0x00035_1D7F1,
    0x00036_1D7F2, 0x00037_1D7F3, 0x00038_1D7F4, 0x00039_1D7F5, 0x00030_1D7F6, 0x00031_1D7F7,
    0x00032_1D7F8, 0x00033_1D7F9, 0x00034_1D7FA, 0x00035_1D7FB, 0x00036_1D7FC, 0x00037_1D7FD,
    0x00038_1D7FE, 0x00039_1D7FF]),
  (0x1EE, [0x00627_1EE00, 0x00628_1EE01, 0x0062C_1EE02, 0x0062F_1EE03, 0x00648_1EE05, 0x00632_1EE06,
    0x0062D_1EE07, 0x00637_1EE08, 0x0064A_1EE09, 0x00643_1EE0A, 0x00644_1EE0B, 0x00645_1EE0C,
    0x00646_1EE0D, 0x00633_1EE0E, 0x00639_1EE0F, 0x00641_1EE10, 0x00635_1EE11, 0x00642_1EE12,
    0x00631_1EE13, 0x00634_1EE14, 0x0062A_1EE15, 0x0062B_1EE16, 0x0062E_1EE17, 0x00630_1EE18,
    0x00636_1EE19, 0x00638_1EE1A, 0x0063A_1EE1B, 0x0066E_1EE1C, 0x006BA_1EE1D, 0x006A1_1EE1E,
    0x0066F_1EE1F, 0x00628_1EE21, 0x0062C_1EE22, 0x00647_1EE24, 0x0062D_1EE27, 0x0064A_1EE29,
    0x00643_1EE2A, 0x00644_1EE2B, 0x00645_1EE2C, 0x00646_1EE2D, 0x00633_1EE2E, 0x00639_1EE2F,
    0x00641_1EE30, 0x00635_1EE31, 0x00642_1EE32, 0x00634_1EE34, 0x0062A_1EE35, 0x0062B_1EE36,
    0x0062E_1EE37, 0x00636_1EE39, 0x0063A_1EE3B, 0x0062C_1EE42, 0x0062D_1EE47, 0x0064A_1EE49,
    0x00644_1EE4B, 0x00646_1EE4D, 0x00633_1EE4E, 0x00639_1EE4F, 0x00635_1EE51, 0x00642_1EE52,
    0x00634_1EE54, 0x0062E_1EE57, 0x00636_1EE59, 0x0063A_1EE5B, 0x006BA_1EE5D, 0x0066F_1EE5F,
    0x00628_1EE61, 0x0062C_1EE62, 0x00647_1EE64, 0x0062D_1EE67, 0x00637_1EE68, 0x0064A_1EE69,
    0x00643_1EE6A, 0x00645_1EE6C, 0x00646_1EE6D, 0x00633_1EE6E, 0x00639_1EE6F, 0x00641_1EE70,
    0x00635_1EE71, 0x00642_1EE72, 0x00634_1EE74, 0x0062A_1EE75, 0x0062B_1EE76, 0x0062E_1EE77,
    0x00636_1EE79, 0x00638_1EE7A, 0x0063A_1EE7B, 0x0066E_1EE7C, 0x006A1_1EE7E, 0x00627_1EE80,
    0x00628_1EE81, 0x0062C_1EE82, 0x0062F_1EE83, 0x00647_1EE84, 0x00648_1EE85, 0x00632_1EE86,
    0x0062D_1EE87, 0x00637_1EE88, 0x0064A_1EE89, 0x00644_1EE8B, 0x00645_1EE8C, 0x00646_1EE8D,
    0x00633_1EE8E, 0x00639_1EE8F, 0x00641_1EE90, 0x00635_1EE91, 0x00642_1EE92, 0x00631_1EE93,
    0x00634_1EE94, 0x0062A_1EE95, 0x0062B_1EE96, 0x0062E_1EE97, 0x00630_1EE98, 0x00636_1EE99,
    0x00638_1EE9A, 0x0063A_1EE9B, 0x00628_1EEA1, 0x0062C_1EEA2, 0x0062F_1EEA3, 0x00648_1EEA5,
    0x00632_1EEA6, 0x0062D_1EEA7, 0x00637_1EEA8, 0x0064A_1EEA9, 0x00644_1EEAB, 0x00645_1EEAC,
    0x00646_1EEAD, 0x00633_1EEAE, 0x00639_1EEAF, 0x00641_1EEB0, 0x00635_1EEB1, 0x00642_1EEB2,
    0x00631_1EEB3, 0x00634_1EEB4, 0x0062A_1EEB5, 0x0062B_1EEB6, 0x0062E_1EEB7, 0x00630_1EEB8,
    0x00636_1EEB9, 0x00638_1EEBA, 0x0063A_1EEBB]),
  (0x1F1, [0x00030_0002E_1F100, 0x00030_0002C_1F101, 0x00031_0002C_1F102, 0x00032_0002C_1F103,
    0x00033_0002C_1F104, 0x00034_0002C_1F105, 0x00035_0002C_1F106, 0x00036_0002C_1F107,
    0x00037_0002C_1F108, 0x00038_0002C_1F109, 0x00039_0002C_1F10A, 0x00028_00041_00029_1F110,
    0x00028_00042_00029_1F111, 0x00028_00043_00029_1F112, 0x00028_00044_00029_1F113,
    0x00028_00045_00029_1F114, 0x00028_00046_00029_1F115, 0x00028_00047_00029_1F116,
    0x00028_00048_00029_1F117, 0x00028_00049_00029_1F118, 0x00028_0004A_00029_1F119,
    0x00028_0004B_00029_1F11A, 0x00028_0004C_00029_1F11B, 0x00028_0004D_00029_1F11C,
    0x00028_0004E_00029_1F11D, 0x00028_0004F_00029_1F11E, 0x00028_00050_00029_1F11F,
    0x00028_00051_00029_1F120, 0x00028_00052_00029_1F121, 0x00028_00053_00029_1F122,
    0x00028_00054_00029_1F123, 0x00028_00055_00029_1F124, 0x00028_00056_00029_1F125,
    0x00028_00057_00029_1F126, 0x00028_00058_00029_1F127, 0x00028_00059_00029_1F128,
    0x00028_0005A_00029_1F129, 0x03014_00053_03015_1F12A, 0x00043_1F12B, 0x00052_1F12C,
    0x00043_00044_1F12D, 0x00057_0005A_1F12E, 0x00041_1F130, 0x00042_1F131, 0x00043_1F132,
    0x00044_1F133, 0x00045_1F134, 0x00046_1F135, 0x00047_1F136, 0x00048_1F137, 0x00049_1F138,
    0x0004A_1F139, 0x0004B_1F13A, 0x0004C_1F13B, 0x0004D_1F13C, 0x0004E_1F13D, 0x0004F_1F13E,
    0x00050_1F13F, 0x00051_1F140, 0x00052_1F141, 0x00053_1F142, 0x00054_1F143, 0x00055_1F144,
    0x00056_1F145, 0x00057_1F146, 0x00058_1F147, 0x00059_1F148, 0x0005A_1F149, 0x00048_00056_1F14A,
    0x0004D_00056_1F14B, 0x00053_00044_1F14C, 0x00053_00053_1F14D, 0x00050_00050_00056_1F14E,
    0x00057_00043_1F14F, 0x0004D_00043_1F16A, 0x0004D_00044_1F16B, 0x0004D_00052_1F16C,
    0x00044_0004A_1F190]),
  (0x1F2, [0x0307B_0304B_1F200, 0x030B3_030B3_1F201, 0x030B5_1F202, 0x0624B_1F210, 0x05B57_1F211,
    0x053CC_1F212, 0x030C6_03099_1F213, 0x04E8C_1F214, 0x0591A_1F215, 0x089E3_1F216, 0x05929_1F217,
    0x04EA4_1F218, 0x06620_1F219, 0x07121_1F21A, 0x06599_1F21B, 0x0524D_1F21C, 0x05F8C_1F21D,
    0x0518D_1F21E, 0x065B0_1F21F, 0x0521D_1F220, 0x07D42_1F221, 0x0751F_1F222, 0x08CA9_1F223,
    0x058F0_1F224, 0x05439_1F225, 0x06F14_1F226, 0x06295_1F227, 0x06355_1F228, 0x04E00_1F229,
    0x04E09_1F22A, 0x0904A_1F22B, 0x05DE6_1F22C, 0x04E2D_1F22D, 0x053F3_1F22E, 0x06307_1F22F,
    0x08D70_1F230, 0x06253_1F231, 0x07981_1F232, 0x07A7A_1F233, 0x05408_1F234, 0x06E80_1F235,
    0x06709_1F236, 0x06708_1F237, 0x07533_1F238, 0x05272_1F239, 0x055B6_1F23A, 0x0914D_1F23B,
    0x03014_0672C_03015_1F240, 0x03014_04E09_03015_1F241, 0x03014_04E8C_03015_1F242,
    0x03014_05B89_03015_1F243, 0x03014_070B9_03015_1F244, 0x03014_06253_03015_1F245,
    0x03014_076D7_03015_1F246, 0x03014_052DD_03015_1F247, 0x03014_06557_03015_1F248, 0x05F97_1F250,
    0x053EF_1F251]),
  (0x1FB, [0x00030_1FBF0, 0x00031_1FBF1, 0x00032_1FBF2, 0x00033_1FBF3, 0x00034_1FBF4, 0x00035_1FBF5,
    0x00036_1FBF6, 0x00037_1FBF7, 0x00038_1FBF8, 0x00039_1FBF9]),
  (0x2F8, [0x04E3D_2F800, 0x04E38_2F801, 0x04E41_2F802, 0x20122_2F803, 0x04F60_2F804, 0x04FAE_2F805,
    0x04FBB_2F806, 0x05002_2F807, 0x0507A_2F808, 0x05099_2F809, 0x050E7_2F80A, 0x050CF_2F80B,
    0x0349E_2F80C, 0x2063A_2F80D, 0x0514D_2F80E, 0x05154_2F80F, 0x05164_2F810, 0x05177_2F811,
    0x2051C_2F812, 0x034B9_2F813, 0x05167_2F814, 0x0518D_2F815, 0x2054B_2F816, 0x05197_2F817,
    0x051A4_2F818, 0x04ECC_2F819, 0x051AC_2F81A, 0x051B5_2F81B, 0x291DF_2F81C, 0x051F5_2F81D,
    0x05203_2F81E, 0x034DF_2F81F, 0x0523B_2F820, 0x05246_2F821, 0x05272_2F822, 0x05277_2F823,
    0x03515_2F824, 0x052C7_2F825, 0x052C9_2F826, 0x052E4_2F827, 0x052FA_2F828, 0x05305_2F829,
    0x05306_2F82A, 0x05317_2F82B, 0x05349_2F82C, 0x05351_2F82D, 0x0535A_2F82E, 0x05373_2F82F,
    0x0537D_2F830, 0x0537F_2F831, 0x0537F_2F832, 0x0537F_2F833, 0x20A2C_2F834, 0x07070_2F835,
    0x053CA_2F836, 0x053DF_2F837, 0x20B63_2F838, 0x053EB_2F839, 0x053F1_2F83A, 0x05406_2F83B,
    0x0549E_2F83C, 0x05438_2F83D, 0x05448_2F83E, 0x05468_2F83F, 0x054A2_2F840, 0x054F6_2F841,
    0x05510_2F842, 0x05553_2F843, 0x05563_2F844, 0x05584_2F845, 0x05584_2F846, 0x05599_2F847,
    0x055AB_2F848, 0x055B3_2F849, 0x055C2_2F84A, 0x05716_2F84B, 0x05606_2F84C, 0x05717_2F84D,
    0x05651_2F84E, 0x05674_2F84F, 0x05207_2F850, 0x058EE_2F851, 0x057CE_2F852, 0x057F4_2F853,
    0x0580D_2F854, 0x0578B_2F855, 0x05832_2F856, 0x05831_2F857, 0x058AC_2F858, 0x214E4_2F859,
    0x058F2_2F85A, 0x058F7_2F85B, 0x05906_2F85C, 0x0591A_2F85D, 0x05922_2F85E, 0x05962_2F85F,
    0x216A8_2F860, 0x216EA_2F861, 0x059EC_2F862, 0x05A1B_2F863, 0x05A27_2F864, 0x059D8_2F865,
    0x05A66_2F866, 0x036EE_2F867, 0x036FC_2F868, 0x05B08_2F869, 0x05B3E_2F86A, 0x05B3E_2F86B,
    0x219C8_2F86C, 0x05BC3_2F86D, 0x05BD8_2F86E, 0x05BE7_2F86F, 0x05BF3_2F870, 0x21B18_2F871,
    0x05BFF_2F872, 0x05C06_2F873, 0x05F53_2F874, 0x05C22_2F875, 0x03781_2F876, 0x05C60_2F877,
    0x05C6E_2F878, 0x05CC0_2F879, 0x05C8D_2F87A, 0x21DE4_2F87B, 0x05D43_2F87C, 0x21DE6_2F87D,
    0x05D6E_2F87E, 0x05D6B_2F87F, 0x05D7C_2F880, 0x05DE1_2F881, 0x05DE2_2F882, 0x0382F_2F883,
    0x05DFD_2F884, 0x05E28_2F885, 0x05E3D_2F886, 0x05E69_2F887, 0x03862_2F888, 0x22183_2F889,
    0x0387C_2F88A, 0x05EB0_2F88B, 0x05EB3_2F88C, 0x05EB6_2F88D, 0x05ECA_2F88E, 0x2A392_2F88F,
    0x05EFE_2F890, 0x22331_2F891, 0x22331_2F892, 0x08201_2F893, 0x05F22_2F894, 0x05F22_2F895,
    0x038C7_2F896, 0x232B8_2F897, 0x261DA_2F898, 0x05F62_2F899, 0x05F6B_2F89A, 0x038E3_2F89B,
    0x05F9A_2F89C, 0x05FCD_2F89D, 0x05FD7_2F89E, 0x05FF9_2F89F, 0x06081_2F8A0, 0x0393A_2F8A1,
    0x0391C_2F8A2, 0x06094_2F8A3, 0x226D4_2F8A4, 0x060C7_2F8A5, 0x06148_2F8A6, 0x0614C_2F8A7,
    0x0614E_2F8A8, 0x0614C_2F8A9, 0x0617A_2F8AA, 0x0618E_2F8AB, 0x061B2_2F8AC, 0x061A4_2F8AD,
    0x061AF_2F8AE, 0x061DE_2F8AF, 0x061F2_2F8B0, 0x061F6_2F8B1, 0x06210_2F8B2, 0x0621B_2F8B3,
    0x0625D_2F8B4, 0x062B1_2F8B5, 0x062D4_2F8B6, 0x06350_2F8B7, 0x22B0C_2F8B8, 0x0633D_2F8B9,
    0x062FC_2F8BA, 0x06368_2F8BB, 0x06383_2F8BC, 0x063E4_2F8BD, 0x22BF1_2F8BE, 0x06422_2F8BF,
    0x063C5_2F8C0, 0x063A9_2F8C1, 0x03A2E_2F8C2, 0x06469_2F8C3, 0x0647E_2F8C4, 0x0649D_2F8C5,
    0x06477_2F8C6, 0x03A6C_2F8C7, 0x0654F_2F8C8, 0x0656C_2F8C9, 0x2300A_2F8CA, 0x065E3_2F8CB,
    0x066F8_2F8CC, 0x06649_2F8CD, 0x03B19_2F8CE, 0x06691_2F8CF, 0x03B08_2F8D0, 0x03AE4_2F8D1,
    0x05192_2F8D2, 0x05195_2F8D3, 0x06700_2F8D4, 0x0669C_2F8D5, 0x080AD_2F8D6, 0x043D9_2F8D7,
    0x06717_2F8D8, 0x0671B_2F8D9, 0x06721_2F8DA, 0x0675E_2F8DB, 0x06753_2F8DC, 0x233C3_2F8DD,
    0x03B49_2F8DE, 0x067FA_2F8DF, 0x06785_2F8E0, 0x06852_2F8E1, 0x06885_2F8E2, 0x2346D_2F8E3,
    0x0688E_2F8E4, 0x0681F_2F8E5, 0x06914_2F8E6, 0x03B9D_2F8E7, 0x06942_2F8E8, 0x069A3_2F8E9,
    0x069EA_2F8EA, 0x06AA8_2F8EB, 0x236A3_2F8EC, 0x06ADB_2F8ED, 0x03C18_2F8EE, 0x06B21_2F8EF,
    0x238A7_2F8F0, 0x06B54_2F8F1, 0x03C4E_2F8F2, 0x06B72_2F8F3, 0x06B9F_2F8F4, 0x06BBA_2F8F5,
    0x06BBB_2F8F6, 0x23A8D_2F8F7, 0x21D0B_2F8F8, 0x23AFA_2F8F9, 0x06C4E_2F8FA, 0x23CBC_2F8FB,
    0x06CBF_2F8FC, 0x06CCD_2F8FD, 0x06C67_2F8FE, 0x06D16_2F8FF]),
  (0x2F9, [0x06D3E_2F900, 0x06D77_2F901, 0x06D41_2F902, 0x06D69_2F903, 0x06D78_2F904, 0x06D85_2F905,
    0x23D1E_2F906, 0x06D34_2F907, 0x06E2F_2F908, 0x06E6E_2F909, 0x03D33_2F90A, 0x06ECB_2F90B,
    0x06EC7_2F90C, 0x23ED1_2F90D, 0x06DF9_2F90E, 0x06F6E_2F90F, 0x23F5E_2F910, 0x23F8E_2F911,
    0x06FC6_2F912, 0x07039_2F913, 0x0701E_2F914, 0x0701B_2F915, 0x03D96_2F916, 0x0704A_2F917,
    0x0707D_2F918, 0x07077_2F919, 0x070AD_2F91A, 0x20525_2F91B, 0x07145_2F91C, 0x24263_2F91D,
    0x0719C_2F91E, 0x243AB_2F91F, 0x07228_2F920, 0x07235_2F921, 0x07250_2F922, 0x24608_2F923,
    0x07280_2F924, 0x07295_2F925, 0x24735_2F926, 0x24814_2F927, 0x0737A_2F928, 0x0738B_2F929,
    0x03EAC_2F92A, 0x073A5_2F92B, 0x03EB8_2F92C, 0x03EB8_2F92D, 0x07447_2F92E, 0x0745C_2F92F,
    0x07471_2F930, 0x07485_2F931, 0x074CA_2F932, 0x03F1B_2F933, 0x07524_2F934, 0x24C36_2F935,
    0x0753E_2F936, 0x24C92_2F937, 0x07570_2F938, 0x2219F_2F939, 0x07610_2F93A, 0x24FA1_2F93B,
    0x24FB8_2F93C, 0x25044_2F93D, 0x03FFC_2F93E, 0x04008_2F93F, 0x076F4_2F940, 0x250F3_2F941,
    0x250F2_2F942, 0x25119_2F943, 0x25133_2F944, 0x0771E_2F945, 0x0771F_2F946, 0x0771F_2F947,
    0x0774A_2F948, 0x04039_2F949, 0x0778B_2F94A, 0x04046_2F94B, 0x04096_2F94C, 0x2541D_2F94D,
    0x0784E_2F94E, 0x0788C_2F94F, 0x078CC_2F950, 0x040E3_2F951, 0x25626_2F952, 0x07956_2F953,
    0x2569A_2F954, 0x256C5_2F955, 0x0798F_2F956, 0x079EB_2F957, 0x0412F_2F958, 0x07A40_2F959,
    0x07A4A_2F95A, 0x07A4F_2F95B, 0x2597C_2F95C, 0x25AA7_2F95D, 0x25AA7_2F95E, 0x07AEE_2F95F,
    0x04202_2F960, 0x25BAB_2F961, 0x07BC6_2F962, 0x07BC9_2F963, 0x04227_2F964, 0x25C80_2F965,
    0x07CD2_2F966, 0x042A0_2F967, 0x07CE8_2F968, 0x07CE3_2F969, 0x07D00_2F96A, 0x25F86_2F96B,
    0x07D63_2F96C, 0x04301_2F96D, 0x07DC7_2F96E, 0x07E02_2F96F, 0x07E45_2F970, 0x04334_2F971,
    0x26228_2F972, 0x26247_2F973, 0x04359_2F974, 0x262D9_2F975, 0x07F7A_2F976, 0x2633E_2F977,
    0x07F95_2F978, 0x07FFA_2F979, 0x08005_2F97A, 0x264DA_2F97B, 0x26523_2F97C, 0x08060_2F97D,
    0x265A8_2F97E, 0x08070_2F97F, 0x2335F_2F980, 0x043D5_2F981, 0x080B2_2F982, 0x08103_2F983,
    0x0440B_2F984, 0x0813E_2F985, 0x05AB5_2F986, 0x267A7_2F987, 0x267B5_2F988, 0x23393_2F989,
    0x2339C_2F98A, 0x08201_2F98B, 0x08204_2F98C, 0x08F9E_2F98D, 0x0446B_2F98E, 0x08291_2F98F,
    0x0828B_2F990, 0x0829D_2F991, 0x052B3_2F992, 0x082B1_2F993, 0x082B3_2F994, 0x082BD_2F995,
    0x082E6_2F996, 0x26B3C_2F997, 0x082E5_2F998, 0x0831D_2F999, 0x08363_2F99A, 0x083AD_2F99B,
    0x08323_2F99C, 0x083BD_2F99D, 0x083E7_2F99E, 0x08457_2F99F, 0x08353_2F9A0, 0x083CA_2F9A1,
    0x083CC_2F9A2, 0x083DC_2F9A3, 0x26C36_2F9A4, 0x26D6B_2F9A5, 0x26CD5_2F9A6, 0x0452B_2F9A7,
    0x084F1_2F9A8, 0x084F3_2F9A9, 0x08516_2F9AA, 0x273CA_2F9AB, 0x08564_2F9AC, 0x26F2C_2F9AD,
    0x0455D_2F9AE, 0x04561_2F9AF, 0x26FB1_2F9B0, 0x270D2_2F9B1, 0x0456B_2F9B2, 0x08650_2F9B3,
    0x0865C_2F9B4, 0x08667_2F9B5, 0x08669_2F9B6, 0x086A9_2F9B7, 0x08688_2F9B8, 0x0870E_2F9B9,
    0x086E2_2F9BA, 0x08779_2F9BB, 0x08728_2F9BC, 0x0876B_2F9BD, 0x08786_2F9BE, 0x045D7_2F9BF,
    0x087E1_2F9C0, 0x08801_2F9C1, 0x045F9_2F9C2, 0x08860_2F9C3, 0x08863_2F9C4, 0x27667_2F9C5,
    0x088D7_2F9C6, 0x088DE_2F9C7, 0x04635_2F9C8, 0x088FA_2F9C9, 0x034BB_2F9CA, 0x278AE_2F9CB,
    0x27966_2F9CC, 0x046BE_2F9CD, 0x046C7_2F9CE, 0x08AA0_2F9CF, 0x08AED_2F9D0, 0x08B8A_2F9D1,
    0x08C55_2F9D2, 0x27CA8_2F9D3, 0x08CAB_2F9D4, 0x08CC1_2F9D5, 0x08D1B_2F9D6, 0x08D77_2F9D7,
    0x27F2F_2F9D8, 0x20804_2F9D9, 0x08DCB_2F9DA, 0x08DBC_2F9DB, 0x08DF0_2F9DC, 0x208DE_2F9DD,
    0x08ED4_2F9DE, 0x08F38_2F9DF, 0x285D2_2F9E0, 0x285ED_2F9E1, 0x09094_2F9E2, 0x090F1_2F9E3,
    0x09111_2F9E4, 0x2872E_2F9E5, 0x0911B_2F9E6, 0x09238_2F9E7, 0x092D7_2F9E8, 0x092D8_2F9E9,
    0x0927C_2F9EA, 0x093F9_2F9EB, 0x09415_2F9EC, 0x28BFA_2F9ED, 0x0958B_2F9EE, 0x04995_2F9EF,
    0x095B7_2F9F0, 0x28D77_2F9F1, 0x049E6_2F9F2, 0x096C3_2F9F3, 0x05DB2_2F9F4, 0x09723_2F9F5,
    0x29145_2F9F6, 0x2921A_2F9F7, 0x04A6E_2F9F8, 0x04A76_2F9F9, 0x097E0_2F9FA, 0x2940A_2F9FB,
    0x04AB2_2F9FC, 0x29496_2F9FD, 0x0980B_2F9FE, 0x0980B_2F9FF]),
  (0x2FA, [0x09829_2FA00, 0x295B6_2FA01, 0x098E2_2FA02, 0x04B33_2FA03, 0x09929_2FA04, 0x099A7_2FA05,
    0x099C2_2FA06, 0x099FE_2FA07, 0x04BCE_2FA08, 0x29B30_2FA09, 0x09B12_2FA0A, 0x09C40_2FA0B,
    0x09CFD_2FA0C, 0x04CCE_2FA0D, 0x04CED_2FA0E, 0x09D67_2FA0F, 0x2A0CE_2FA10, 0x04CF8_2FA11,
    0x2A105_2FA12, 0x2A20E_2FA13, 0x2A291_2FA14, 0x09EBB_2FA15, 0x04D56_2FA16, 0x09EF9_2FA17,
    0x09EFE_2FA18, 0x09F05_2FA19, 0x09F0F_2FA1A, 0x09F16_2FA1B, 0x09F3B_2FA1C, 0x2A600_2FA1D])]

/-- Runs of characters of one nonzero combining class: the first, the last and the class. -/
def combiningRuns : List (Nat × Nat × Nat) := [
  (0x0300, 0x0314, 230), (0x0315, 0x0315, 232), (0x0316, 0x0319, 220), (0x031A, 0x031A, 232),
  (0x031B, 0x031B, 216), (0x031C, 0x0320, 220), (0x0321, 0x0322, 202), (0x0323, 0x0326, 220),
  (0x0327, 0x0328, 202), (0x0329, 0x0333, 220), (0x0334, 0x0338, 1), (0x0339, 0x033C, 220),
  (0x033D, 0x0344, 230), (0x0345, 0x0345, 240), (0x0346, 0x0346, 230), (0x0347, 0x0349, 220),
  (0x034A, 0x034C, 230), (0x034D, 0x034E, 220), (0x0350, 0x0352, 230), (0x0353, 0x0356, 220),
  (0x0357, 0x0357, 230), (0x0358, 0x0358, 232), (0x0359, 0x035A, 220), (0x035B, 0x035B, 230),
  (0x035C, 0x035C, 233), (0x035D, 0x035E, 234), (0x035F, 0x035F, 233), (0x0360, 0x0361, 234),
  (0x0362, 0x0362, 233), (0x0363, 0x036F, 230), (0x0483, 0x0487, 230), (0x0591, 0x0591, 220),
  (0x0592, 0x0595, 230), (0x0596, 0x0596, 220), (0x0597, 0x0599, 230), (0x059A, 0x059A, 222),
  (0x059B, 0x059B, 220), (0x059C, 0x05A1, 230), (0x05A2, 0x05A7, 220), (0x05A8, 0x05A9, 230),
  (0x05AA, 0x05AA, 220), (0x05AB, 0x05AC, 230), (0x05AD, 0x05AD, 222), (0x05AE, 0x05AE, 228),
  (0x05AF, 0x05AF, 230), (0x05B0, 0x05B0, 10), (0x05B1, 0x05B1, 11), (0x05B2, 0x05B2, 12),
  (0x05B3, 0x05B3, 13), (0x05B4, 0x05B4, 14), (0x05B5, 0x05B5, 15), (0x05B6, 0x05B6, 16),
  (0x05B7, 0x05B7, 17), (0x05B8, 0x05B8, 18), (0x05B9, 0x05BA, 19), (0x05BB, 0x05BB, 20),
  (0x05BC, 0x05BC, 21), (0x05BD, 0x05BD, 22), (0x05BF, 0x05BF, 23), (0x05C1, 0x05C1, 24),
  (0x05C2, 0x05C2, 25), (0x05C4, 0x05C4, 230), (0x05C5, 0x05C5, 220), (0x05C7, 0x05C7, 18),
  (0x0610, 0x0617, 230), (0x0618, 0x0618, 30), (0x0619, 0x0619, 31), (0x061A, 0x061A, 32),
  (0x064B, 0x064B, 27), (0x064C, 0x064C, 28), (0x064D, 0x064D, 29), (0x064E, 0x064E, 30),
  (0x064F, 0x064F, 31), (0x0650, 0x0650, 32), (0x0651, 0x0651, 33), (0x0652, 0x0652, 34),
  (0x0653, 0x0654, 230), (0x0655, 0x0656, 220), (0x0657, 0x065B, 230), (0x065C, 0x065C, 220),
  (0x065D, 0x065E, 230), (0x065F, 0x065F, 220), (0x0670, 0x0670, 35), (0x06D6, 0x06DC, 230),
  (0x06DF, 0x06E2, 230), (0x06E3, 0x06E3, 220), (0x06E4, 0x06E4, 230), (0x06E7, 0x06E8, 230),
  (0x06EA, 0x06EA, 220), (0x06EB, 0x06EC, 230), (0x06ED, 0x06ED, 220), (0x0711, 0x0711, 36),
  (0x0730, 0x0730, 230), (0x0731, 0x0731, 220), (0x0732, 0x0733, 230), (0x0734, 0x0734, 220),
  (0x0735, 0x0736, 230), (0x0737, 0x0739, 220), (0x073A, 0x073A, 230), (0x073B, 0x073C, 220),
  (0x073D, 0x073D, 230), (0x073E, 0x073E, 220), (0x073F, 0x0741, 230), (0x0742, 0x0742, 220),
  (0x0743, 0x0743, 230), (0x0744, 0x0744, 220), (0x0745, 0x0745, 230), (0x0746, 0x0746, 220),
  (0x0747, 0x0747, 230), (0x0748, 0x0748, 220), (0x0749, 0x074A, 230), (0x07EB, 0x07F1, 230),
  (0x07F2, 0x07F2, 220), (0x07F3, 0x07F3, 230), (0x07FD, 0x07FD, 220), (0x0816, 0x0819, 230),
  (0x081B, 0x0823, 230), (0x0825, 0x0827, 230), (0x0829, 0x082D, 230), (0x0859, 0x085B, 220),
  (0x0898, 0x0898, 230), (0x0899, 0x089B, 220), (0x089C, 0x089F, 230), (0x08CA, 0x08CE, 230),
  (0x08CF, 0x08D3, 220), (0x08D4, 0x08E1, 230), (0x08E3, 0x08E3, 220), (0x08E4, 0x08E5, 230),
  (0x08E6, 0x08E6, 220), (0x08E7, 0x08E8, 230), (0x08E9, 0x08E9, 220), (0x08EA, 0x08EC, 230),
  (0x08ED, 0x08EF, 220), (0x08F0, 0x08F0, 27), (0x08F1, 0x08F1, 28), (0x08F2, 0x08F2, 29),
  (0x08F3, 0x08F5, 230), (0x08F6, 0x08F6, 220), (0x08F7, 0x08F8, 230), (0x08F9, 0x08FA, 220),
  (0x08FB, 0x08FF, 230), (0x093C, 0x093C, 7), (0x094D, 0x094D, 9), (0x0951, 0x0951, 230),
  (0x0952, 0x0952, 220), (0x0953, 0x0954, 230), (0x09BC, 0x09BC, 7), (0x09CD, 0x09CD, 9),
  (0x09FE, 0x09FE, 230), (0x0A3C, 0x0A3C, 7), (0x0A4D, 0x0A4D, 9), (0x0ABC, 0x0ABC, 7),
  (0x0ACD, 0x0ACD, 9), (0x0B3C, 0x0B3C, 7), (0x0B4D, 0x0B4D, 9), (0x0BCD, 0x0BCD, 9),
  (0x0C3C, 0x0C3C, 7), (0x0C4D, 0x0C4D, 9), (0x0C55, 0x0C55, 84), (0x0C56, 0x0C56, 91),
  (0x0CBC, 0x0CBC, 7), (0x0CCD, 0x0CCD, 9), (0x0D3B, 0x0D3C, 9), (0x0D4D, 0x0D4D, 9),
  (0x0DCA, 0x0DCA, 9), (0x0E38, 0x0E39, 103), (0x0E3A, 0x0E3A, 9), (0x0E48, 0x0E4B, 107),
  (0x0EB8, 0x0EB9, 118), (0x0EBA, 0x0EBA, 9), (0x0EC8, 0x0ECB, 122), (0x0F18, 0x0F19, 220),
  (0x0F35, 0x0F35, 220), (0x0F37, 0x0F37, 220), (0x0F39, 0x0F39, 216), (0x0F71, 0x0F71, 129),
  (0x0F72, 0x0F72, 130), (0x0F74, 0x0F74, 132), (0x0F7A, 0x0F7D, 130), (0x0F80, 0x0F80, 130),
  (0x0F82, 0x0F83, 230), (0x0F84, 0x0F84, 9), (0x0F86, 0x0F87, 230), (0x0FC6, 0x0FC6, 220),
  (0x1037, 0x1037, 7), (0x1039, 0x103A, 9), (0x108D, 0x108D, 220), (0x135D, 0x135F, 230),
  (0x1714, 0x1715, 9), (0x1734, 0x1734, 9), (0x17D2, 0x17D2, 9), (0x17DD, 0x17DD, 230),
  (0x18A9, 0x18A9, 228), (0x1939, 0x1939, 222), (0x193A, 0x193A, 230), (0x193B, 0x193B, 220),
  (0x1A17, 0x1A17, 230), (0x1A18, 0x1A18, 220), (0x1A60, 0x1A60, 9), (0x1A75, 0x1A7C, 230),
  (0x1A7F, 0x1A7F, 220), (0x1AB0, 0x1AB4, 230), (0x1AB5, 0x1ABA, 220), (0x1ABB, 0x1ABC, 230),
  (0x1ABD, 0x1ABD, 220), (0x1ABF, 0x1AC0, 220), (0x1AC1, 0x1AC2, 230), (0x1AC3, 0x1AC4, 220),
  (0x1AC5, 0x1AC9, 230), (0x1ACA, 0x1ACA, 220), (0x1ACB, 0x1ACE, 230), (0x1B34, 0x1B34, 7),
  (0x1B44, 0x1B44, 9), (0x1B6B, 0x1B6B, 230), (0x1B6C, 0x1B6C, 220), (0x1B6D, 0x1B73, 230),
  (0x1BAA, 0x1BAB, 9), (0x1BE6, 0x1BE6, 7), (0x1BF2, 0x1BF3, 9), (0x1C37, 0x1C37, 7),
  (0x1CD0, 0x1CD2, 230), (0x1CD4, 0x1CD4, 1), (0x1CD5, 0x1CD9, 220), (0x1CDA, 0x1CDB, 230),
  (0x1CDC, 0x1CDF, 220), (0x1CE0, 0x1CE0, 230), (0x1CE2, 0x1CE8, 1), (0x1CED, 0x1CED, 220),
  (0x1CF4, 0x1CF4, 230), (0x1CF8, 0x1CF9, 230), (0x1DC0, 0x1DC1, 230), (0x1DC2, 0x1DC2, 220),
  (0x1DC3, 0x1DC9, 230), (0x1DCA, 0x1DCA, 220), (0x1DCB, 0x1DCC, 230), (0x1DCD, 0x1DCD, 234),
  (0x1DCE, 0x1DCE, 214), (0x1DCF, 0x1DCF, 220), (0x1DD0, 0x1DD0, 202), (0x1DD1, 0x1DF5, 230),
  (0x1DF6, 0x1DF6, 232), (0x1DF7, 0x1DF8, 228), (0x1DF9, 0x1DF9, 220), (0x1DFA, 0x1DFA, 218),
  (0x1DFB, 0x1DFB, 230), (0x1DFC, 0x1DFC, 233), (0x1DFD, 0x1DFD, 220), (0x1DFE, 0x1DFE, 230),
  (0x1DFF, 0x1DFF, 220), (0x20D0, 0x20D1, 230), (0x20D2, 0x20D3, 1), (0x20D4, 0x20D7, 230),
  (0x20D8, 0x20DA, 1), (0x20DB, 0x20DC, 230), (0x20E1, 0x20E1, 230), (0x20E5, 0x20E6, 1),
  (0x20E7, 0x20E7, 230), (0x20E8, 0x20E8, 220), (0x20E9, 0x20E9, 230), (0x20EA, 0x20EB, 1),
  (0x20EC, 0x20EF, 220), (0x20F0, 0x20F0, 230), (0x2CEF, 0x2CF1, 230), (0x2D7F, 0x2D7F, 9),
  (0x2DE0, 0x2DFF, 230), (0x302A, 0x302A, 218), (0x302B, 0x302B, 228), (0x302C, 0x302C, 232),
  (0x302D, 0x302D, 222), (0x302E, 0x302F, 224), (0x3099, 0x309A, 8), (0xA66F, 0xA66F, 230),
  (0xA674, 0xA67D, 230), (0xA69E, 0xA69F, 230), (0xA6F0, 0xA6F1, 230), (0xA806, 0xA806, 9),
  (0xA82C, 0xA82C, 9), (0xA8C4, 0xA8C4, 9), (0xA8E0, 0xA8F1, 230), (0xA92B, 0xA92D, 220),
  (0xA953, 0xA953, 9), (0xA9B3, 0xA9B3, 7), (0xA9C0, 0xA9C0, 9), (0xAAB0, 0xAAB0, 230),
  (0xAAB2, 0xAAB3, 230), (0xAAB4, 0xAAB4, 220), (0xAAB7, 0xAAB8, 230), (0xAABE, 0xAABF, 230),
  (0xAAC1, 0xAAC1, 230), (0xAAF6, 0xAAF6, 9), (0xABED, 0xABED, 9), (0xFB1E, 0xFB1E, 26),
  (0xFE20, 0xFE26, 230), (0xFE27, 0xFE2D, 220), (0xFE2E, 0xFE2F, 230), (0x101FD, 0x101FD, 220),
  (0x102E0, 0x102E0, 220), (0x10376, 0x1037A, 230), (0x10A0D, 0x10A0D, 220),
  (0x10A0F, 0x10A0F, 230), (0x10A38, 0x10A38, 230), (0x10A39, 0x10A39, 1),
  (0x10A3A, 0x10A3A, 220), (0x10A3F, 0x10A3F, 9), (0x10AE5, 0x10AE5, 230),
  (0x10AE6, 0x10AE6, 220), (0x10D24, 0x10D27, 230), (0x10EAB, 0x10EAC, 230),
  (0x10F46, 0x10F47, 220), (0x10F48, 0x10F4A, 230), (0x10F4B, 0x10F4B, 220),
  (0x10F4C, 0x10F4C, 230), (0x10F4D, 0x10F50, 220), (0x10F82, 0x10F82, 230),
  (0x10F83, 0x10F83, 220), (0x10F84, 0x10F84, 230), (0x10F85, 0x10F85, 220),
  (0x11046, 0x11046, 9), (0x11070, 0x11070, 9), (0x1107F, 0x1107F, 9), (0x110B9, 0x110B9, 9),
  (0x110BA, 0x110BA, 7), (0x11100, 0x11102, 230), (0x11133, 0x11134, 9), (0x11173, 0x11173, 7),
  (0x111C0, 0x111C0, 9), (0x111CA, 0x111CA, 7), (0x11235, 0x11235, 9), (0x11236, 0x11236, 7),
  (0x112E9, 0x112E9, 7), (0x112EA, 0x112EA, 9), (0x1133B, 0x1133C, 7), (0x1134D, 0x1134D, 9),
  (0x11366, 0x1136C, 230), (0x11370, 0x11374, 230), (0x11442, 0x11442, 9), (0x11446, 0x11446, 7),
  (0x1145E, 0x1145E, 230), (0x114C2, 0x114C2, 9), (0x114C3, 0x114C3, 7), (0x115BF, 0x115BF, 9),
  (0x115C0, 0x115C0, 7), (0x1163F, 0x1163F, 9), (0x116B6, 0x116B6, 9), (0x116B7, 0x116B7, 7),
  (0x1172B, 0x1172B, 9), (0x11839, 0x11839, 9), (0x1183A, 0x1183A, 7), (0x1193D, 0x1193E, 9),
  (0x11943, 0x11943, 7), (0x119E0, 0x119E0, 9), (0x11A34, 0x11A34, 9), (0x11A47, 0x11A47, 9),
  (0x11A99, 0x11A99, 9), (0x11C3F, 0x11C3F, 9), (0x11D42, 0x11D42, 7), (0x11D44, 0x11D45, 9),
  (0x11D97, 0x11D97, 9), (0x16AF0, 0x16AF4, 1), (0x16B30, 0x16B36, 230), (0x16FF0, 0x16FF1, 6),
  (0x1BC9E, 0x1BC9E, 1), (0x1D165, 0x1D166, 216), (0x1D167, 0x1D169, 1), (0x1D16D, 0x1D16D, 226),
  (0x1D16E, 0x1D172, 216), (0x1D17B, 0x1D182, 220), (0x1D185, 0x1D189, 230),
  (0x1D18A, 0x1D18B, 220), (0x1D1AA, 0x1D1AD, 230), (0x1D242, 0x1D244, 230),
  (0x1E000, 0x1E006, 230), (0x1E008, 0x1E018, 230), (0x1E01B, 0x1E021, 230),
  (0x1E023, 0x1E024, 230), (0x1E026, 0x1E02A, 230), (0x1E130, 0x1E136, 230),
  (0x1E2AE, 0x1E2AE, 230), (0x1E2EC, 0x1E2EF, 230), (0x1E8D0, 0x1E8D6, 220),
  (0x1E944, 0x1E949, 230), (0x1E94A, 0x1E94A, 7)]

/-- The row of a code point, where it decomposes. -/
def decompositionRow? (code : Nat) : Option Nat :=
  -- The last field of a row is the character that decomposes.
  (decompositionPages.lookup (code / 0x100)).bind fun rows =>
    rows.find? fun row => row % 0x100000 == code

/-- The full decomposition of a code point, where it has one. -/
def decomposition? (code : Nat) : Option (List Nat) :=
  (decompositionRow? code).map fun row => rowCodes (row / 0x100000)

/-- The combining class of a character, zero for one that starts a sequence of its own. -/
def combiningClass (c : Char) : Nat :=
  match combiningRuns.find? fun run => run.1 ≤ c.toNat && c.toNat ≤ run.2.1 with
  | some (_, _, value) => value
  | none => 0

end AssetCatalog.Unicode
