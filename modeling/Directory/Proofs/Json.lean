import Directory.Json.Reader

/-!
# String literals

A string literal is written character by character. If what is written for each character spells it
wherever it stands, the literal is read as the text that was written, and ends where it was ended.

- `Json.Spells`: whether some characters of a literal spell one character.
- `Json.value?_literal`: a literal that is written by spellings is read as the text.
- `Json.value?_literalMembers`: so is an object whose members are such literals.
-/

namespace Directory.Json

open Text (hexDigit?)

/-! ## Spellings of characters -/

/-- Whether some characters, wherever they stand in a string literal, spell one character. -/
def Spells (written : List Char) (c : Char) : Prop :=
  ∀ rest, units? (written ++ rest) = (units? rest).map fun (us, l) => (c.toNat :: us, l)

theorem spells_self {c : Char} (hquote : c ≠ '"') (hbackslash : c ≠ '\\')
    (hcontrol : ¬ c.toNat < 0x20) : Spells [c] c := by
  intro rest
  rw [List.singleton_append, units?.eq_5 _ _ hquote (fun _ _ _ _ _ h => absurd h hbackslash)
    (fun _ _ h => absurd h hbackslash), if_neg (by simp [hcontrol, hbackslash])]
  cases units? rest <;> rfl

/-- A backslash and a letter spell the character that they stand for. -/
theorem spells_escape {e c : Char} (he : escape? e = some c) : Spells ['\\', e] c := by
  intro rest
  have hu : e ≠ 'u' := by
    rintro rfl
    exact nomatch he
  rw [List.cons_append, List.cons_append, List.nil_append,
    units?.eq_4 _ _ (fun _ _ _ _ _ h => absurd h hu), he]
  cases units? rest <;> rfl

theorem hexDigit?_digitChar : ∀ d < 16, hexDigit? (Nat.digitChar d) = some d := by
  decide

/-- Four digits spell the character that they number. -/
theorem spells_digits {c : Char} (hc : c.toNat < 256) :
    Spells ['\\', 'u', '0', '0', Nat.digitChar (c.toNat / 16), Nat.digitChar (c.toNat % 16)] c := by
  intro rest
  have hzero : hexDigit? '0' = some 0 := by decide
  have hhigh := hexDigit?_digitChar (c.toNat / 16) (by omega)
  have hlow := hexDigit?_digitChar (c.toNat % 16) (by omega)
  have hnumber : 0 * 4096 + 0 * 256 + c.toNat / 16 * 16 + c.toNat % 16 = c.toNat := by omega
  simp only [List.cons_append, List.nil_append, units?, hzero, hhigh, hlow, Option.bind_eq_bind,
    Option.bind_some, hnumber]
  cases units? rest <;> rfl

/-! ## Literals -/

/-- The numbers of the characters of a text denote it, as no character is half of a pair. -/
theorem joined?_toNat (l : List Char) : joined? (l.map Char.toNat) = some l := by
  induction l with
  | nil => rfl
  | cons c l ih =>
    have hvalid : c.toNat < 0xD800 ∨ 0xDFFF < c.toNat ∧ c.toNat < 0x110000 := c.valid
    have hhigh : isHighSurrogate c.toNat = false := by
      simp only [isHighSurrogate, Bool.and_eq_false_iff, decide_eq_false_iff_not]
      omega
    have hlow : isLowSurrogate c.toNat = false := by
      simp only [isLowSurrogate, Bool.and_eq_false_iff, decide_eq_false_iff_not]
      omega
    rw [List.map_cons, joined?.eq_def]
    simp only [hhigh, hlow, ih, Bool.false_eq_true, if_false, Option.map_some, Char.ofNat_toNat]

/-- A string literal that is written character by character. -/
def literal (write : Char → List Char) (s : String) : List Char :=
  '"' :: s.toList.flatMap write ++ ['"']

/-- A member of an object whose name and value are such literals. -/
def literalMember (write : Char → List Char) (member : String × String) : List Char :=
  literal write member.1 ++ ':' :: literal write member.2

theorem skipBlanks_literalMember (write : Char → List Char) (member : String × String)
    (rest : List Char) :
    skipBlanks (literalMember write member ++ rest) =
      '"' :: (member.1.toList.flatMap write ++
        '"' :: ':' :: (literal write member.2 ++ rest)) := by
  simp only [literalMember, literal, List.cons_append, List.append_assoc, List.nil_append]
  rfl

/-- Members between commas. -/
def literalMembers (write : Char → List Char) (members : List (String × String)) : List Char :=
  [','].intercalate (members.map (literalMember write))

theorem literalMembers_cons_cons (write : Char → List Char) (m m' : String × String)
    (members : List (String × String)) :
    literalMembers write (m :: m' :: members) =
      literalMember write m ++ ',' :: literalMembers write (m' :: members) := by
  rw [literalMembers, List.map_cons, List.map_cons, List.intercalate_cons_cons, ← List.map_cons,
    List.append_assoc, List.singleton_append]
  rfl

theorem literalMembers_singleton (write : Char → List Char) (m : String × String) :
    literalMembers write [m] = literalMember write m :=
  List.intercalate_singleton

theorem length_le_literalMembers (write : Char → List Char) (members : List (String × String)) :
    members.length ≤ (literalMembers write members).length := by
  induction members with
  | nil => exact Nat.zero_le _
  | cons m members ih =>
    cases members with
    | nil =>
      rw [literalMembers_singleton, literalMember, literal, List.cons_append]
      simp
    | cons m' members =>
      have hlength : (',' :: literalMembers write (m' :: members)).length =
          (literalMembers write (m' :: members)).length + 1 := List.length_cons
      rw [literalMembers_cons_cons, List.length_append, hlength, List.length_cons]
      omega

/-- A character that is not written for any character, and does not stand between texts either, is
not written for members. -/
theorem not_mem_literalMembers {write : Char → List Char} {d : Char} (hwrite : ∀ c, d ∉ write c)
    (hd : d ∉ ['"', ':', ',']) (members : List (String × String)) :
    d ∉ literalMembers write members := by
  simp only [List.mem_cons, List.not_mem_nil, or_false, not_or] at hd
  have hmember : ∀ m, d ∉ literalMember write m := by
    intro m
    simp [literalMember, literal, hd, hwrite]
  induction members with
  | nil => exact List.not_mem_nil
  | cons m members ih =>
    cases members with
    | nil =>
      rw [literalMembers_singleton]
      exact hmember m
    | cons m' members =>
      rw [literalMembers_cons_cons]
      simp [hmember, hd, ih]

/-- What is written for members begins with a quote. -/
theorem exists_literalMembers (write : Char → List Char) {members : List (String × String)}
    (hne : members ≠ []) : ∃ l, literalMembers write members = '"' :: l := by
  cases members with
  | nil => exact absurd rfl hne
  | cons m members =>
    cases members with
    | nil => exact ⟨_, literalMembers_singleton write m⟩
    | cons m' members => exact ⟨_, literalMembers_cons_cons write m m' members⟩

section Literals

variable {write : Char → List Char} (hwrite : ∀ c, Spells (write c) c)
include hwrite

theorem units?_flatMap (l rest : List Char) :
    units? (l.flatMap write ++ '"' :: rest) = some (l.map Char.toNat, rest) := by
  induction l with
  | nil => rw [List.flatMap_nil, List.nil_append, units?, List.map_nil]
  | cons c l ih =>
    rw [List.flatMap_cons, List.append_assoc, hwrite c, ih, List.map_cons]
    rfl

/-- A literal that is written by spellings is read as the text, whatever follows. -/
theorem value?_literal (fuel : Nat) (s : String) (rest : List Char) :
    value? (fuel + 1) (literal write s ++ rest) = some (.text (some s), rest) := by
  have hstart : skipBlanks (literal write s ++ rest) =
      '"' :: (s.toList.flatMap write ++ '"' :: rest) := by
    rw [literal, List.cons_append, List.cons_append, List.append_assoc]
    rfl
  rw [value?, hstart]
  simp only [units?_flatMap hwrite, textOfUnits?, joined?_toNat, Option.bind_eq_bind,
    Option.bind_some, Option.map_some, String.ofList_toList]

section Members

variable (fuel : Nat) (member : String × String) (rest : List Char)

/-- A member before the brace that ends an object is its last. -/
theorem members?_last :
    members? (fuel + 2) (literalMember write member ++ '\x7d' :: rest) =
      some ([(some member.1, .text (some member.2))], rest) := by
  have hcolon : ∀ l, skipBlanks (':' :: l) = ':' :: l := fun _ => rfl
  have hbrace : skipBlanks ('\x7d' :: rest) = '\x7d' :: rest := rfl
  rw [members?, skipBlanks_literalMember]
  simp only [units?_flatMap hwrite, hcolon, value?_literal hwrite, hbrace, textOfUnits?,
    joined?_toNat, Option.bind_eq_bind, Option.bind_some, Option.map_some, String.ofList_toList]

/-- A member before a comma is followed by others. -/
theorem members?_comma :
    members? (fuel + 2) (literalMember write member ++ ',' :: rest) =
      (members? (fuel + 1) rest).map fun (members, l) =>
        ((some member.1, .text (some member.2)) :: members, l) := by
  have hcolon : ∀ l, skipBlanks (':' :: l) = ':' :: l := fun _ => rfl
  have hcomma : skipBlanks (',' :: rest) = ',' :: rest := rfl
  rw [members?, skipBlanks_literalMember]
  simp only [units?_flatMap hwrite, hcolon, value?_literal hwrite, hcomma, textOfUnits?,
    joined?_toNat, Option.bind_eq_bind, Option.bind_some, Option.map_some, String.ofList_toList]
  cases members? (fuel + 1) rest <;> rfl

end Members

/-- Members between commas are read one by one, up to the brace that ends the object. -/
theorem members?_literalMembers {members : List (String × String)} (hne : members ≠ [])
    {fuel : Nat} (hfuel : members.length < fuel) (rest : List Char) :
    members? fuel (literalMembers write members ++ '\x7d' :: rest) =
      some (members.map fun m => (some m.1, .text (some m.2)), rest) := by
  induction members generalizing fuel with
  | nil => exact absurd rfl hne
  | cons m members ih =>
    rw [List.length_cons] at hfuel
    obtain ⟨k, rfl⟩ : ∃ k, fuel = k + 2 := ⟨fuel - 2, by omega⟩
    cases members with
    | nil =>
      rw [literalMembers_singleton, members?_last hwrite]
      rfl
    | cons m' members =>
      rw [literalMembers_cons_cons, List.append_assoc, List.cons_append, members?_comma hwrite,
        ih (List.cons_ne_nil _ _) (Nat.lt_of_succ_lt_succ hfuel)]
      rfl

/-- An object is read as its members. -/
theorem value?_literalMembers {members : List (String × String)} (hne : members ≠ [])
    {fuel : Nat} (hfuel : members.length < fuel) (rest : List Char) :
    value? (fuel + 1) ('\x7b' :: literalMembers write members ++ '\x7d' :: rest) =
      some (.record (members.map fun m => (some m.1, .text (some m.2))), rest) := by
  obtain ⟨l, hl⟩ := exists_literalMembers write hne
  have hmembers := members?_literalMembers hwrite hne hfuel rest
  rw [hl, List.cons_append] at hmembers
  rw [hl, List.cons_append, List.cons_append, value?]
  show (do
    let (members, l) ← members? fuel ('"' :: (l ++ '\x7d' :: rest))
    some (record members, l)) = _
  rw [hmembers]
  rfl

end Literals

end Directory.Json
