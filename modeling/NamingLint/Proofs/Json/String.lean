import NamingLint.Json.Reader

/-!
# Strings of JSON

`string_of_quoted` says that a string is read back from its characters as they are escaped, whatever
they are.
-/

namespace NamingLint.Json

theorem hex_value_of_digit {value : Nat} (h : value < 16) :
    hexValue? (hexDigit value) = some value := by
  decide +revert

/-- The code unit of a control character in four digits. -/
theorem code_units_of_control {c : Char} (h : c.toNat < 32) (rest : List Char) :
    codeUnits? ('0' :: '0' :: hexDigit (c.toNat / 16) :: hexDigit (c.toNat % 16) :: rest) =
      some (c, rest) := by
  have hzero : hexValue? '0' = some 0 := rfl
  have hvalue : c.toNat / 16 * 16 + c.toNat % 16 = c.toNat := Nat.div_add_mod' _ _
  have hunit : codeUnit?
      ('0' :: '0' :: hexDigit (c.toNat / 16) :: hexDigit (c.toNat % 16) :: rest) =
        some (c.toNat, rest) := by
    simp [codeUnit?, hzero, hex_value_of_digit (show c.toNat / 16 < 16 by omega),
      hex_value_of_digit (show c.toNat % 16 < 16 by omega), hvalue]
  have hlow : ¬ (0xD800 ≤ c.toNat) := by omega
  have htrail : ¬ (0xDC00 ≤ c.toNat) := by omega
  simp [codeUnits?, hunit, hlow, htrail]

theorem escape_ne_nil (c : Char) : escapeChar c ≠ [] := by
  unfold escapeChar
  split <;> try simp
  split <;> simp

/-- The body of a string is read character by character. -/
theorem string_body_escape (count : Nat) (c : Char) (text : List Char) :
    stringBody? (count + 1) (escapeChar c ++ text) =
      (stringBody? count text).map fun (more, rest) => (c :: more, rest) := by
  unfold escapeChar
  split
  -- The last case is that of the characters without a short form.
  case h_8 hquote hbackslash _ _ _ _ _ =>
    have hquote : c ≠ '"' := hquote
    have hbackslash : c ≠ '\\' := hbackslash
    split
    · next hcontrol =>
        cases hmore : stringBody? count text <;>
          simp [stringBody?, escaped?, code_units_of_control hcontrol, hmore]
    · next hplain =>
        cases hmore : stringBody? count text <;>
          simp [stringBody?, hquote, hbackslash, hplain, hmore]
  all_goals cases hmore : stringBody? count text <;> simp [stringBody?, escaped?, hmore]

theorem string_body_of_quoted {count : Nat} {body : List Char} (h : body.length < count)
    (rest : List Char) :
    stringBody? count (body.flatMap escapeChar ++ '"' :: rest) = some (body, rest) := by
  induction body generalizing count with
  | nil =>
      obtain ⟨count, rfl⟩ := Nat.exists_eq_add_one.2 (Nat.zero_lt_of_lt h)
      simp [stringBody?]
  | cons c body ih =>
      obtain ⟨count, rfl⟩ := Nat.exists_eq_add_one.2 (Nat.zero_lt_of_lt h)
      rw [List.flatMap_cons, List.append_assoc, string_body_escape,
        ih (Nat.lt_of_succ_lt_succ h)]
      rfl

theorem length_le_escaped (body : List Char) :
    body.length ≤ (body.flatMap escapeChar).length := by
  induction body with
  | nil => exact Nat.le_refl 0
  | cons c body ih =>
      have hc := List.length_pos_iff.2 (escape_ne_nil c)
      simp only [List.flatMap_cons, List.length_append, List.length_cons]
      omega

/-- Whatever a string holds, it is read back up to its closing quote. -/
theorem string_of_quoted (text : String) (rest : List Char) :
    string? (text.toList.flatMap escapeChar ++ '"' :: rest) = some (text, rest) := by
  have hbound := length_le_escaped text.toList
  rw [string?, string_body_of_quoted (by simp only [List.length_append, List.length_cons]; omega)]
  simp

end NamingLint.Json
