import Mathlib.Data.List.Chain
import NamingLint.Config.Fingerprint
import NamingLint.Proofs.Config.Validity

/-!
# Reading the encoding of a configuration back

The encoding marks where its parts begin and leaves out how long they are. `encoding_inj` says what
two acceptable configurations of the same encoding have in common, as long as no zero character in
their patterns for native containers imitates the tag of a rule: these patterns and the settings of
the lower-case rule, except that an absent list of kinds looks like an empty one.
-/

namespace NamingLint.Config

open NamingLint.Naming (DeclarationKind Rule)

/-! ## Sequences of symbols -/

section

variable {α β : Type}

/-- A code without a word that begins another one can be read word by word, up to a rest that
begins with no word. -/
theorem flat_map_append_inj {code : α → List β} (hcode : ∀ a b, code a <+: code b → a = b)
    {xs ys : List α} {rest tail : List β} (hrest : ∀ a, ¬ code a <+: rest)
    (htail : ∀ a, ¬ code a <+: tail) (h : xs.flatMap code ++ rest = ys.flatMap code ++ tail) :
    xs = ys ∧ rest = tail := by
  induction xs generalizing ys with
  | nil =>
      cases ys with
      | nil => exact ⟨rfl, h⟩
      | cons y ys =>
          refine absurd ⟨ys.flatMap code ++ tail, ?_⟩ (hrest y)
          simpa using h.symm
  | cons x xs ih =>
      cases ys with
      | nil =>
          refine absurd ⟨xs.flatMap code ++ rest, ?_⟩ (htail x)
          simpa using h
      | cons y ys =>
          simp only [List.flatMap_cons, List.append_assoc] at h
          have hxy : x = y := by
            rcases List.prefix_or_prefix_of_prefix (List.prefix_append (code x) _)
              (h ▸ List.prefix_append (code y) _) with hword | hword
            · exact hcode x y hword
            · exact (hcode y x hword).symm
          subst hxy
          obtain ⟨rfl, hsame⟩ := ih (List.append_cancel_left h)
          exact ⟨rfl, hsame⟩

/-- Sequences without a stop can be told from what follows them, as long as that begins with one. -/
theorem append_inj_of_stop {stop : α → Prop} {xs ys rest tail : List α} (hxs : ∀ x ∈ xs, ¬ stop x)
    (hys : ∀ y ∈ ys, ¬ stop y) (hrest : ∀ first ∈ rest.head?, stop first)
    (htail : ∀ first ∈ tail.head?, stop first) (h : xs ++ rest = ys ++ tail) :
    xs = ys ∧ rest = tail := by
  induction xs generalizing ys with
  | nil =>
      cases ys with
      | nil => exact ⟨rfl, h⟩
      | cons y ys =>
          have hhead : rest.head? = some y := congrArg List.head? h
          exact absurd (hrest y hhead) (hys y List.mem_cons_self)
  | cons x xs ih =>
      cases ys with
      | nil =>
          have hhead : tail.head? = some x := congrArg List.head? h.symm
          exact absurd (htail x hhead) (hxs x List.mem_cons_self)
      | cons y ys =>
          obtain ⟨rfl, happend⟩ := List.cons.inj h
          obtain ⟨rfl, hsame⟩ := ih (fun x hx => hxs x (List.mem_cons_of_mem _ hx))
            (fun y hy => hys y (List.mem_cons_of_mem _ hy)) happend
          exact ⟨rfl, hsame⟩

/-- Sequences without a symbol can be told from what follows them, as long as that begins with the
symbol. -/
theorem append_inj_of_not_mem {symbol : α} {xs ys rest tail : List α} (hxs : symbol ∉ xs)
    (hys : symbol ∉ ys) (hrest : ∀ first ∈ rest.head?, first = symbol)
    (htail : ∀ first ∈ tail.head?, first = symbol) (h : xs ++ rest = ys ++ tail) :
    xs = ys ∧ rest = tail := by
  refine append_inj_of_stop ?_ ?_ hrest htail h
  · rintro x hx rfl
    exact hxs hx
  · rintro y hy rfl
    exact hys hy

end

/-! ## Texts -/

/-- A text can be read back from its bytes. -/
theorem bytes_of_inj {left right : String} : bytesOf left = bytesOf right ↔ left = right := by
  refine ⟨fun h => ?_, fun h => h ▸ rfl⟩
  rw [← String.toByteArray_inj, ← String.utf8Encode_toList, ← String.utf8Encode_toList]
  exact congrArg List.toByteArray h

/-- A byte below 128 stands only in the encoding of the character of this number. -/
theorem ascii_mem_char {char : Char} {byte : UInt8} (hascii : byte.toNat < 128)
    (h : byte ∈ String.utf8EncodeChar char) : char.toNat = byte.toNat := by
  have hbyte (n : Nat) (hsame : byte = UInt8.ofNat n) : n % 256 = byte.toNat := by
    simpa using (congrArg UInt8.toNat hsame).symm
  show char.val.toNat = byte.toNat
  simp only [String.utf8EncodeChar] at h
  split at h
  · have hval := hbyte _ (List.mem_singleton.1 h)
    omega
  · -- All bytes of a longer sequence have their highest bit set.
    split at h
    · simp only [List.mem_cons, List.not_mem_nil, or_false] at h
      rcases h with h | h <;> have hval := hbyte _ h <;> omega
    · split at h
      · simp only [List.mem_cons, List.not_mem_nil, or_false] at h
        rcases h with h | h | h <;> have hval := hbyte _ h <;> omega
      · simp only [List.mem_cons, List.not_mem_nil, or_false] at h
        rcases h with h | h | h | h <;> have hval := hbyte _ h <;> omega

/-- A text without an ASCII character has no byte of its number. -/
theorem ascii_not_mem_bytes {text : String} {char : Char} {byte : UInt8}
    (hascii : byte.toNat < 128) (hchar : char.toNat = byte.toNat) (h : char ∉ text.toList) :
    byte ∉ bytesOf text := by
  intro hbyte
  obtain ⟨other, hother, hmem⟩ := List.mem_flatMap.1 hbyte
  have hsame : other = char :=
    Char.toNat_inj.1 ((ascii_mem_char hascii hmem).trans hchar.symm)
  exact h (hsame ▸ hother)

/-- A text without a zero character has no zero among its bytes. -/
theorem zero_not_mem_bytes {text : String} (h : '\x00' ∉ text.toList) : 0 ∉ bytesOf text :=
  ascii_not_mem_bytes (by decide) (by decide) h

/-! ## Settings of a rule -/

/-- The name of a severity or of a kind of declarations as bytes. -/
def wordOf : Severity ⊕ DeclarationKind → List UInt8
  | .inl severity => bytesOf severity.name
  | .inr kind => bytesOf kind.name

/-- The words at the end of the encoding of settings. -/
def RuleSettings.words (settings : RuleSettings) : List (Severity ⊕ DeclarationKind) :=
  settings.severity.toList.map .inl ++ (settings.declarationKinds.getD []).map .inr

/-- Settings that look the same in an encoding: a list of kinds that is absent counts as empty. -/
structure RuleSettings.Alike (left right : RuleSettings) : Prop where
  enabled : left.enabled = right.enabled
  allowUnderscoreDigit : left.allowUnderscoreDigit = right.allowUnderscoreDigit
  severity : left.severity = right.severity
  kinds : left.declarationKinds.getD [] = right.declarationKinds.getD []

/-- No name of a severity or a kind begins another one. -/
theorem word_prefix_free (left right : Severity ⊕ DeclarationKind)
    (h : wordOf left <+: wordOf right) : left = right := by
  have hall : ∀ left ∈ Severity.all.map .inl ++ DeclarationKind.all.map .inr,
      ∀ right ∈ Severity.all.map .inl ++ DeclarationKind.all.map .inr,
        wordOf left <+: wordOf right → left = right := by decide
  have hmem (word : Severity ⊕ DeclarationKind) :
      word ∈ Severity.all.map .inl ++ DeclarationKind.all.map .inr := by
    rcases word with severity | kind
    · cases severity <;> simp [Severity.all]
    · cases kind <;> simp [DeclarationKind.all]
  exact hall left (hmem left) right (hmem right) h

/-- The name of a severity or a kind has no zero among its bytes. -/
theorem zero_not_mem_word (word : Severity ⊕ DeclarationKind) : 0 ∉ wordOf word := by
  rcases word with severity | kind
  · cases severity <;> decide
  · cases kind <;> decide

/-- The name of a severity or a kind begins with some letter, and this letter is no `n`. -/
theorem word_head (word : Severity ⊕ DeclarationKind) :
    ∃ first, (wordOf word).head? = some first ∧ first ≠ 110 := by
  rcases word with severity | kind
  · cases severity <;> exact ⟨_, rfl, by decide⟩
  · cases kind <;> exact ⟨_, rfl, by decide⟩

namespace RuleSettings

variable {left right settings : RuleSettings}

theorem encoding_eq : settings.encoding = flagByte settings.enabled ::
    flagByte settings.allowUnderscoreDigit :: settings.words.flatMap wordOf := by
  cases h : settings.severity <;> simp [encoding, words, wordOf, h, List.flatMap_map]

/-- The words of settings give back the severity and the kinds. -/
theorem words_inj (h : left.words = right.words) :
    left.severity = right.severity ∧
      left.declarationKinds.getD [] = right.declarationKinds.getD [] := by
  have hsome (severity : Severity) (kinds others : List DeclarationKind) :
      Sum.inl severity :: kinds.map .inr ≠ others.map .inr := by
    intro hsame
    obtain ⟨kind, _, hkind⟩ := List.mem_map.1 (hsame ▸ List.mem_cons_self)
    cases hkind
  cases hleft : left.severity <;> cases hright : right.severity <;>
    simp only [words, hleft, hright, Option.toList_none, Option.toList_some, List.map_nil,
      List.map_cons, List.nil_append, List.singleton_append] at h
  · exact ⟨rfl, (List.map_inj_right fun _ _ => Sum.inr.inj).1 h⟩
  · exact absurd h.symm (hsome _ _ _)
  · exact absurd h (hsome _ _ _)
  · obtain ⟨hseverity, h⟩ := List.cons.inj h
    exact ⟨congrArg some (Sum.inl.inj hseverity),
      (List.map_inj_right fun _ _ => Sum.inr.inj).1 h⟩

/-- Settings can be read back from their encoding and what follows it, as long as that starts with a
zero byte. -/
theorem encoding_append_inj {rest tail : List UInt8} (hrest : ∀ first ∈ rest.head?, first = 0)
    (htail : ∀ first ∈ tail.head?, first = 0)
    (h : left.encoding ++ rest = right.encoding ++ tail) : left.Alike right ∧ rest = tail := by
  have hflag : ∀ left right, flagByte left = flagByte right → left = right := by decide
  have hword {bytes : List UInt8} (hbytes : ∀ first ∈ bytes.head?, first = 0)
      (word : Severity ⊕ DeclarationKind) : ¬ wordOf word <+: bytes := by
    rintro ⟨suffix, rfl⟩
    obtain ⟨first, hfirst, _⟩ := word_head word
    have hzero : first = 0 := hbytes first (by simp [List.head?_append, hfirst])
    exact zero_not_mem_word word (hzero ▸ List.mem_of_head? hfirst)
  simp only [encoding_eq, List.cons_append, List.cons.injEq] at h
  obtain ⟨henabled, hallow, hwords⟩ := h
  obtain ⟨hwords, hsame⟩ :=
    flat_map_append_inj word_prefix_free (hword hrest) (hword htail) hwords
  obtain ⟨hseverity, hkinds⟩ := words_inj hwords
  exact ⟨⟨hflag _ _ henabled, hflag _ _ hallow, hseverity, hkinds⟩, hsame⟩

end RuleSettings

/-! ## Tags -/

/-- The tag of the pattern for native containers, a zero byte and a name that begins with an `n`,
begins nowhere inside. -/
def TagFree (bytes : List UInt8) : Prop :=
  bytes.IsChain fun first second => first = 0 → second ≠ 110

/-- The tag of the pattern for native containers. -/
def nativeTag : List UInt8 := 0 :: bytesOf "native:"

/-- Bytes in front that hold no zero do not complete a tag. -/
theorem TagFree.append {xs ys : List UInt8} (hxs : 0 ∉ xs) (hys : TagFree ys) :
    TagFree (xs ++ ys) := by
  induction xs with
  | nil => exact hys
  | cons x xs ih =>
      refine .cons (ih (mt (List.mem_cons_of_mem x) hxs)) ?_
      rintro y _ rfl
      exact absurd List.mem_cons_self hxs

/-- No tag begins in the settings of the lower-case rule. -/
theorem rule_tag_free (settings : RuleSettings) :
    TagFree (tagged "rule:" Rule.lowerCase.id ++ settings.encoding) := by
  have hhead : ∀ first ∈ (settings.words.flatMap wordOf).head?, first ≠ 110 := by
    cases hwords : settings.words with
    | nil => simp
    | cons word words =>
        obtain ⟨first, hfirst, hne⟩ := word_head word
        simpa [List.head?_append, hfirst] using hne
  have hwords : TagFree (settings.words.flatMap wordOf) := by
    have hzero : 0 ∉ settings.words.flatMap wordOf := by
      intro hmem
      obtain ⟨word, _, hword⟩ := List.mem_flatMap.1 hmem
      exact zero_not_mem_word word hword
    have hnil : TagFree [] := .nil
    simpa using TagFree.append hzero hnil
  have hflag (flag : Bool) : flagByte flag ≠ 110 := by cases flag <;> decide
  have hflags : TagFree settings.encoding := by
    rw [RuleSettings.encoding_eq]
    exact .cons_cons (fun _ => hflag _) (.cons hwords fun first hfirst _ => hhead first hfirst)
  have hid : 0 ∉ bytesOf "rule:" ++ bytesOf Rule.lowerCase.id := by decide
  refine .cons (TagFree.append hid hflags) fun first hfirst _ => ?_
  obtain rfl : (114 : UInt8) = first := Option.some.inj hfirst
  decide

/-- What follows the last tag does not depend on what stands in front of it. -/
theorem behind_last_tag {xs ys rest tail : List UInt8} (hrest : TagFree rest)
    (htail : TagFree tail) (h : xs ++ (nativeTag ++ rest) = ys ++ (nativeTag ++ tail)) :
    rest = tail := by
  -- If one tag stood in front of the other, the other would begin inside what follows the first.
  have hfirst {between rest tail : List UInt8} (hrest : TagFree rest)
      (h : nativeTag ++ rest = between ++ (nativeTag ++ tail)) : rest = tail := by
    cases between with
    | nil => exact List.append_cancel_left h
    | cons first between =>
        have hinside : bytesOf "native:" ++ rest = between ++ (nativeTag ++ tail) :=
          (List.cons.inj h).2
        have hfree : TagFree (bytesOf "native:" ++ rest) := .append (by decide) hrest
        have hstart : nativeTag = [0, 110] ++ bytesOf "ative:" := by rfl
        have hinfix : [0, 110] <:+: bytesOf "native:" ++ rest :=
          ⟨between, bytesOf "ative:" ++ tail, by simp only [hinside, hstart, List.append_assoc]⟩
        have htag := List.IsChain.infix hfree hinfix
        simp at htag
  rcases List.append_eq_append_iff.1 h with ⟨between, _, h⟩ | ⟨between, _, h⟩
  · exact hfirst hrest h
  · exact (hfirst htail h).symm

/-! ## Configurations -/

/-- The part of an encoding in front of the pattern for native containers. -/
def frontEncoding (config : Config) : List UInt8 :=
  bytesOf config.version ++ config.paths.patterns.flatMap (tagged "path:") ++
    config.paths.ignoreFile.elim [] (tagged "ignore:")

/-- The part of an encoding behind the pattern for native containers. -/
def rulesEncoding (config : Config) : List UInt8 :=
  config.rules.entries.flatMap fun (id, settings) => tagged "rule:" id ++ settings.encoding

variable {left right config : Config}

theorem encoding_eq_append (config : Config) : config.encoding = config.frontEncoding ++
    (nativeTag ++ (bytesOf config.nativePattern ++ config.rulesEncoding)) := by
  simp only [encoding, frontEncoding, tagged, nativeTag, rulesEncoding, List.append_assoc]

/-- The rules of an acceptable configuration are encoded by nothing or by the settings of the
lower-case rule behind a zero byte. -/
theorem Valid.rules_encoding_eq (h : config.Valid) :
    config.rulesEncoding = [] ∧ config.ruleSettings = {} ∨
      config.rulesEncoding =
        tagged "rule:" Rule.lowerCase.id ++ config.ruleSettings.encoding := by
  rcases h.entries_eq with ⟨hentries, hsettings⟩ | hentries
  · exact .inl ⟨by simp [rulesEncoding, hentries], hsettings⟩
  · exact .inr (by simp [rulesEncoding, hentries])

theorem Valid.rules_encoding_tag_free (h : config.Valid) :
    TagFree config.rulesEncoding ∧ ∀ first ∈ config.rulesEncoding.head?, first = 0 := by
  rcases h.rules_encoding_eq with ⟨hnone, _⟩ | hsome
  · exact hnone ▸ ⟨.nil, by simp⟩
  · rw [hsome]
    exact ⟨rule_tag_free _, fun first hfirst => (Option.some.inj hfirst).symm⟩

/-- Acceptable configurations of the same encoding have the same pattern for native containers, and
settings of the lower-case rule that differ at most in whether an empty list of kinds is there. -/
theorem encoding_inj (hleft : left.Valid) (hright : right.Valid)
    (hzero_left : '\x00' ∉ left.nativePattern.toList)
    (hzero_right : '\x00' ∉ right.nativePattern.toList) (h : left.encoding = right.encoding) :
    left.nativePattern = right.nativePattern ∧ left.ruleSettings.Alike right.ruleSettings := by
  obtain ⟨hfree_left, htag_left⟩ := hleft.rules_encoding_tag_free
  obtain ⟨hfree_right, htag_right⟩ := hright.rules_encoding_tag_free
  have hzero_left := zero_not_mem_bytes hzero_left
  have hzero_right := zero_not_mem_bytes hzero_right
  rw [encoding_eq_append left, encoding_eq_append right] at h
  -- In both encodings the tag of the pattern is the last of its kind.
  have hbehind : bytesOf left.nativePattern ++ left.rulesEncoding =
      bytesOf right.nativePattern ++ right.rulesEncoding :=
    behind_last_tag (.append hzero_left hfree_left) (.append hzero_right hfree_right) h
  obtain ⟨hnative, hrules⟩ :=
    append_inj_of_not_mem hzero_left hzero_right htag_left htag_right hbehind
  refine ⟨bytes_of_inj.1 hnative, ?_⟩
  rcases hleft.rules_encoding_eq with ⟨hnone, hdefault⟩ | hsome <;>
    rcases hright.rules_encoding_eq with ⟨hnone', hdefault'⟩ | hsome'
  · rw [hdefault, hdefault']
    exact ⟨rfl, rfl, rfl, rfl⟩
  · rw [hnone, hsome'] at hrules
    cases hrules
  · rw [hsome, hnone'] at hrules
    cases hrules
  · rw [hsome, hsome'] at hrules
    have hend : ∀ first ∈ ([] : List UInt8).head?, first = 0 := by simp
    exact (RuleSettings.encoding_append_inj hend hend (by simpa using hrules)).1

end NamingLint.Config
