import AssetCatalog.Name
import AssetCatalog.Proofs.Unicode.Ascii

/-! Identifiers of file names are normal forms, unless characters of the normal form were left out. -/

namespace AssetCatalog.Name

open Unicode (continuesWord nfkc)

/-- The joined words of a name, of which its identifier is made. -/
def words (text : Text) (stripExtension : Bool) : Text :=
  -- The words are joined before anything is normalized.
  joinWords true (if stripExtension then withoutExtension text else text)

/-- Whether the identifier for a name leaves out characters of the normal form of its words. -/
def drops (text : Text) (stripExtension : Bool) : Bool :=
  !(nfkc (words text stripExtension)).all continuesWord

/-- The characters of reserved words, and of reserved words with an underscore behind them, are ASCII characters. -/
theorem ascii_of_isKeyword {word : Text} (reserved : isKeyword word = true) :
    ∀ c ∈ word ++ ['_'], c.toNat < 0x80 := by
  -- There are few reserved words, and all of their characters are looked at.
  have checked : (keywords.all fun word => (word ++ ['_']).all fun c => c.toNat < 0x80) = true := by
    decide
  have member : word ∈ keywords := by simpa [isKeyword] using reserved
  have all := List.all_eq_true.mp checked word member
  exact fun c within => of_decide_eq_true (List.all_eq_true.mp all c within)

/-- Where all characters of a normal form are legal, the identifier made of it is a normal form. -/
theorem nfkc_finish {name : Text} (kept : (nfkc name).all continuesWord = true) :
    nfkc (finish name) = finish name := by
  -- Underscores are put around a normal form, and they stay apart from it.
  have legal : legalCharacters name = nfkc name := List.filter_eq_self.mpr (List.all_eq_true.mp kept)
  have started : nfkc (if Unicode.isIdentifier (nfkc name) then nfkc name else '_' :: nfkc name) =
      if Unicode.isIdentifier (nfkc name) then nfkc name else '_' :: nfkc name := by
    split
    · exact Unicode.nfkc_nfkc name
    · rw [Unicode.nfkc_underscore_cons, Unicode.nfkc_nfkc]
  rw [finish, legal]
  generalize (if Unicode.isIdentifier (nfkc name) then nfkc name else '_' :: nfkc name) = word at started ⊢
  split
  · -- A reserved word is of ASCII, and stays so with an underscore behind it.
    rename_i reserved
    exact Unicode.nfkc_of_ascii (ascii_of_isKeyword reserved)
  · exact started

/-- An identifier that leaves out nothing is its own normal form. -/
theorem nfkc_ofText {text : Text} {stripExtension : Bool} (kept : drops text stripExtension = false) :
    nfkc (ofText text stripExtension) = ofText text stripExtension := by
  -- Nothing of the normal form was dropped, so all of it continues words.
  have all : (nfkc (words text stripExtension)).all continuesWord = true := by
    simpa only [drops, Bool.not_eq_false'] using kept
  exact nfkc_finish all

end AssetCatalog.Name
