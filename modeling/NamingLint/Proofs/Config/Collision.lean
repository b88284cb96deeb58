import Mathlib.Data.List.Sort
import NamingLint.Proofs.Config.Encoding

/-!
# Configurations of one encoding

`encoding_eq_iff_alike` says which configurations share an encoding, and with it a fingerprint,
whether or not they are acceptable. As long as no text in them imitates the marks of the encoding,
these are the configurations that differ at most in whether an empty list of kinds is there.
-/

namespace NamingLint.Config

/-! ## Settings by identifier -/

/-- The identifiers of the rules that have settings, in ascending order. -/
def RuleMap.ids (rules : RuleMap) : List String :=
  rules.entries.map Prod.fst

/-- Identifiers ascend, so that they are the same if they are the same as a set. -/
theorem RuleMap.ids_eq_of_mem_iff {left right : RuleMap}
    (h : ∀ id, id ∈ left.ids ↔ id ∈ right.ids) : left.ids = right.ids := by
  have hascending (rules : RuleMap) : rules.ids.Pairwise (· < ·) :=
    List.pairwise_map.2 rules.ascending
  exact (hascending left).eq_of_mem_iff (hascending right) h

/-- The encoding of a rule with the settings that it has among others. -/
def ruleCode (settings : String → RuleSettings) (id : String) : List UInt8 :=
  tagged "rule:" id ++ (settings id).encoding

theorem rules_encoding_eq_flat_map (config : Config) :
    config.rulesEncoding = config.rules.ids.flatMap (ruleCode config.settingsOf) := by
  unfold rulesEncoding RuleMap.ids
  rw [List.flatMap_map]
  refine List.flatMap_congr fun entry hentry => ?_
  simp [ruleCode, settingsOf, RuleMap.find?_eq_some_iff.2 hentry]

/-! ## Sequences of parts -/

/-- Bytes that start with the zero byte of a tag, if there are any. -/
def Marked (bytes : List UInt8) : Prop :=
  ∀ first ∈ bytes.head?, first = 0

/-- Texts behind a tag start with a zero byte if what follows them does. -/
theorem Marked.tagged {tag : String} {bytes : List UInt8} (h : Marked bytes)
    (texts : List String) : Marked (texts.flatMap (tagged tag) ++ bytes) := by
  cases texts with
  | nil => exact h
  | cons text texts => exact fun first hfirst => (Option.some.inj hfirst).symm

/-- Texts behind one tag can be read back, up to a rest that starts with another tag. -/
theorem tagged_append_inj {tag : String} {xs ys : List String} {rest tail : List UInt8}
    (hxs : ∀ text ∈ xs, '\x00' ∉ text.toList) (hys : ∀ text ∈ ys, '\x00' ∉ text.toList)
    (hrest : Marked rest) (htail : Marked tail)
    (hrest_tag : ¬ 0 :: bytesOf tag <+: rest) (htail_tag : ¬ 0 :: bytesOf tag <+: tail)
    (h : xs.flatMap (tagged tag) ++ rest = ys.flatMap (tagged tag) ++ tail) :
    xs = ys ∧ rest = tail := by
  induction xs generalizing ys with
  | nil =>
      cases ys with
      | nil => exact ⟨rfl, h⟩
      | cons y ys =>
          refine absurd ⟨bytesOf y ++ (ys.flatMap (tagged tag) ++ tail), ?_⟩ hrest_tag
          simpa [tagged] using h.symm
  | cons x xs ih =>
      cases ys with
      | nil =>
          refine absurd ⟨bytesOf x ++ (xs.flatMap (tagged tag) ++ rest), ?_⟩ htail_tag
          simpa [tagged] using h
      | cons y ys =>
          obtain ⟨hx, hxs⟩ := List.forall_mem_cons.1 hxs
          obtain ⟨hy, hys⟩ := List.forall_mem_cons.1 hys
          simp only [List.flatMap_cons, tagged, List.cons_append, List.append_assoc] at h
          obtain ⟨hbytes, h⟩ :=
            append_inj_of_not_mem (zero_not_mem_bytes hx) (zero_not_mem_bytes hy)
              (hrest.tagged xs) (htail.tagged ys) (List.append_cancel_left (List.cons.inj h).2)
          obtain ⟨rfl, hsame⟩ := ih hxs hys h
          exact ⟨by rw [bytes_of_inj.1 hbytes], hsame⟩

/-- An identifier whose end can be seen in front of the flags of its settings. -/
def PlainId (id : String) : Prop :=
  '\x00' ∉ id.toList ∧ '\x01' ∉ id.toList

theorem marked_rules (settings : String → RuleSettings) (ids : List String) :
    Marked (ids.flatMap (ruleCode settings)) := by
  cases ids with
  | nil => exact nofun
  | cons id ids => exact fun first hfirst => (Option.some.inj hfirst).symm

/-- The encoding of rules can be read back, up to the settings that look the same. -/
theorem rule_codes_inj {first second : String → RuleSettings} {xs ys : List String}
    (hxs : ∀ id ∈ xs, PlainId id) (hys : ∀ id ∈ ys, PlainId id)
    (h : xs.flatMap (ruleCode first) = ys.flatMap (ruleCode second)) :
    xs = ys ∧ ∀ id ∈ xs, (first id).Alike (second id) := by
  have hplain {id : String} (hid : PlainId id) : ∀ byte ∈ bytesOf id, ¬ (byte = 0 ∨ byte = 1) := by
    rintro byte hbyte (rfl | rfl)
    · exact zero_not_mem_bytes hid.1 hbyte
    · exact ascii_not_mem_bytes (by decide) (by decide) hid.2 hbyte
  have hflag (settings : RuleSettings) (bytes : List UInt8) :
      ∀ byte ∈ (settings.encoding ++ bytes).head?, byte = 0 ∨ byte = 1 := by
    intro byte hbyte
    obtain rfl : flagByte settings.enabled = byte := Option.some.inj hbyte
    cases settings.enabled <;> decide
  induction xs generalizing ys with
  | nil =>
      cases ys with
      | nil => exact ⟨rfl, nofun⟩
      | cons y ys => simp [ruleCode, tagged] at h
  | cons x xs ih =>
      cases ys with
      | nil => simp [ruleCode, tagged] at h
      | cons y ys =>
          rw [List.forall_mem_cons] at hxs hys
          simp only [List.flatMap_cons, ruleCode, tagged, List.cons_append, List.append_assoc] at h
          -- The identifier ends where the first flag stands.
          obtain ⟨hid, h⟩ := append_inj_of_stop (hplain hxs.1) (hplain hys.1) (hflag _ _)
            (hflag _ _) (List.append_cancel_left (List.cons.inj h).2)
          obtain rfl := bytes_of_inj.1 hid
          obtain ⟨halike, h⟩ :=
            RuleSettings.encoding_append_inj (marked_rules first xs) (marked_rules second ys) h
          obtain ⟨rfl, hsame⟩ := ih hxs.2 hys.2 h
          exact ⟨rfl, List.forall_mem_cons.2 ⟨halike, hsame⟩⟩

/-! ## Configurations -/

/-- Configurations that look the same in an encoding: a list of kinds that is absent counts as
empty. -/
structure Alike (left right : Config) : Prop where
  version : left.version = right.version
  patterns : left.paths.patterns = right.paths.patterns
  ignoreFile : left.paths.ignoreFile = right.paths.ignoreFile
  nativePattern : left.nativePattern = right.nativePattern
  ids : ∀ id, id ∈ left.rules.ids ↔ id ∈ right.rules.ids
  settings : ∀ id, (left.settingsOf id).Alike (right.settingsOf id)

/-- No text of the configuration holds the zero character that tags start with, and no identifier of
a rule the character of a raised flag. -/
structure Separable (config : Config) : Prop where
  version : '\x00' ∉ config.version.toList
  patterns : ∀ pattern ∈ config.paths.patterns, '\x00' ∉ pattern.toList
  ignoreFile : ∀ name ∈ config.paths.ignoreFile, '\x00' ∉ name.toList
  nativePattern : '\x00' ∉ config.nativePattern.toList
  ids : ∀ id ∈ config.rules.ids, PlainId id

variable {left right : Config}

/-- Settings that look the same have the same encoding. -/
theorem RuleSettings.Alike.encoding_eq {left right : RuleSettings} (h : left.Alike right) :
    left.encoding = right.encoding := by
  rw [encoding, encoding, h.enabled, h.allowUnderscoreDigit, h.severity, h.kinds]

theorem Alike.encoding_eq (h : left.Alike right) : left.encoding = right.encoding := by
  have hcode : ruleCode left.settingsOf = ruleCode right.settingsOf := by
    funext id
    rw [ruleCode, ruleCode, (h.settings id).encoding_eq]
  have hrules : left.rulesEncoding = right.rulesEncoding := by
    rw [rules_encoding_eq_flat_map, rules_encoding_eq_flat_map, RuleMap.ids_eq_of_mem_iff h.ids,
      hcode]
  rw [encoding_eq_append, encoding_eq_append, frontEncoding, frontEncoding, h.version, h.patterns,
    h.ignoreFile, h.nativePattern, hrules]

/-- A rule without settings has the default ones. -/
theorem settings_of_not_mem {config : Config} {id : String} (h : id ∉ config.rules.ids) :
    config.settingsOf id = {} := by
  have hnone : config.rules.find? id = none := by
    refine List.lookup_eq_none_iff.2 fun entry hentry => bne_iff_ne.2 ?_
    rintro rfl
    exact h (List.mem_map_of_mem hentry)
  simp [settingsOf, hnone]

/-- The part of an encoding behind the path patterns. -/
def behindPatterns (config : Config) : List UInt8 :=
  config.paths.ignoreFile.toList.flatMap (tagged "ignore:") ++
    (nativeTag ++ (bytesOf config.nativePattern ++ config.rulesEncoding))

/-- The name of the ignore file is a list of at most one text behind its tag. -/
theorem encoding_eq_behind_patterns (config : Config) : config.encoding = bytesOf config.version ++
    (config.paths.patterns.flatMap (tagged "path:") ++ config.behindPatterns) := by
  have hignore : config.paths.ignoreFile.elim [] (tagged "ignore:") =
      config.paths.ignoreFile.toList.flatMap (tagged "ignore:") := by
    cases config.paths.ignoreFile <;> simp
  rw [encoding_eq_append, frontEncoding, hignore, behindPatterns]
  simp only [List.append_assoc]

/-- Configurations of the same encoding look the same, unless a text in them imitates a mark of the
encoding. -/
theorem alike_of_encoding_eq (hleft : left.Separable) (hright : right.Separable)
    (h : left.encoding = right.encoding) : left.Alike right := by
  have hnative_mark (bytes : List UInt8) : Marked (nativeTag ++ bytes) :=
    fun first hfirst => (Option.some.inj hfirst).symm
  have hrules_mark (config : Config) : Marked config.rulesEncoding :=
    rules_encoding_eq_flat_map config ▸ marked_rules _ _
  have hmark (config : Config) : Marked config.behindPatterns := (hnative_mark _).tagged _
  -- The tags differ in the letter behind the zero byte.
  have hnative_tag (bytes : List UInt8) : ¬ 0 :: bytesOf "ignore:" <+: nativeTag ++ bytes := by
    rintro ⟨suffix, hsuffix⟩
    have hletter : some (105 : UInt8) = some 110 := congrArg (fun bytes => bytes[1]?) hsuffix
    cases hletter
  have hbehind_tag (config : Config) : ¬ 0 :: bytesOf "path:" <+: config.behindPatterns := by
    rintro ⟨suffix, hsuffix⟩
    rw [behindPatterns] at hsuffix
    cases hname : config.paths.ignoreFile with
    | none =>
        rw [hname] at hsuffix
        have hletter : some (112 : UInt8) = some 110 := congrArg (fun bytes => bytes[1]?) hsuffix
        cases hletter
    | some name =>
        rw [hname] at hsuffix
        have hletter : some (112 : UInt8) = some 105 := congrArg (fun bytes => bytes[1]?) hsuffix
        cases hletter
  have hname {config : Config} (hconfig : config.Separable) :
      ∀ text ∈ config.paths.ignoreFile.toList, '\x00' ∉ text.toList :=
    fun text htext => hconfig.ignoreFile text (Option.mem_toList.1 htext)
  rw [encoding_eq_behind_patterns, encoding_eq_behind_patterns] at h
  obtain ⟨hversion, h⟩ := append_inj_of_not_mem (zero_not_mem_bytes hleft.version)
    (zero_not_mem_bytes hright.version) ((hmark left).tagged _) ((hmark right).tagged _) h
  obtain ⟨hpatterns, h⟩ := tagged_append_inj hleft.patterns hright.patterns (hmark left)
    (hmark right) (hbehind_tag left) (hbehind_tag right) h
  obtain ⟨hignore, h⟩ := tagged_append_inj (hname hleft) (hname hright) (hnative_mark _)
    (hnative_mark _) (hnative_tag _) (hnative_tag _) h
  obtain ⟨hnative, h⟩ := append_inj_of_not_mem (zero_not_mem_bytes hleft.nativePattern)
    (zero_not_mem_bytes hright.nativePattern) (hrules_mark left) (hrules_mark right)
    (List.append_cancel_left h)
  rw [rules_encoding_eq_flat_map, rules_encoding_eq_flat_map] at h
  obtain ⟨hids, hsettings⟩ := rule_codes_inj hleft.ids hright.ids h
  refine ⟨bytes_of_inj.1 hversion, hpatterns, ?_, bytes_of_inj.1 hnative, ?_, fun id => ?_⟩
  · exact Option.ext fun name => by rw [← Option.mem_toList, hignore, Option.mem_toList]
  · exact fun id => by rw [hids]
  · by_cases hid : id ∈ left.rules.ids
    · exact hsettings id hid
    · rw [settings_of_not_mem hid, settings_of_not_mem (hids ▸ hid)]
      exact ⟨rfl, rfl, rfl, rfl⟩

/-- Two configurations have the same encoding exactly if they look the same, unless a text in them
imitates a mark of the encoding. -/
theorem encoding_eq_iff_alike (hleft : left.Separable) (hright : right.Separable) :
    left.encoding = right.encoding ↔ left.Alike right :=
  ⟨alike_of_encoding_eq hleft hright, Alike.encoding_eq⟩

/-- A configuration that is not acceptable, with given path patterns and kinds of its rule. -/
def unchecked (patterns : List String) (kinds : Option (List Naming.DeclarationKind)) : Config where
  version := "0"
  paths := { patterns, ignoreFile := some "" }
  nativePattern := "("
  rules := ⟨[("a", { enabled := true, declarationKinds := kinds }), ("b", {})],
    List.pairwise_pair.2 (show "a" < "b" by decide)⟩

theorem separable_unchecked {patterns : List String}
    (kinds : Option (List Naming.DeclarationKind))
    (hpatterns : ∀ pattern ∈ patterns, '\x00' ∉ pattern.toList) :
    (unchecked patterns kinds).Separable where
  version := show '\x00' ∉ "0".toList by decide
  patterns := hpatterns
  ignoreFile := show ∀ name ∈ some "", '\x00' ∉ name.toList by decide
  nativePattern := show '\x00' ∉ "(".toList by decide
  ids := show ∀ id ∈ ["a", "b"], '\x00' ∉ id.toList ∧ '\x01' ∉ id.toList by decide

/-- Open and empty kinds look the same, path patterns in another order do not. -/
theorem encoding_of_unchecked :
    (unchecked ["x", "y"] none).encoding = (unchecked ["x", "y"] (some [])).encoding ∧
      (unchecked ["x", "y"] none).encoding ≠ (unchecked ["y", "x"] none).encoding := by
  have hxy : ∀ pattern ∈ ["x", "y"], '\x00' ∉ pattern.toList := by decide
  have hyx : ∀ pattern ∈ ["y", "x"], '\x00' ∉ pattern.toList := by decide
  refine ⟨(encoding_eq_iff_alike (separable_unchecked none hxy)
    (separable_unchecked (some []) hxy)).2 ?_, fun hsame => ?_⟩
  · refine ⟨rfl, rfl, rfl, rfl, fun _ => Iff.rfl, fun id => ?_⟩
    by_cases hid : id = "a"
    · subst hid
      exact ⟨rfl, rfl, rfl, rfl⟩
    · simp only [settingsOf, RuleMap.find?, unchecked, List.lookup_cons, beq_eq_false_iff_ne.2 hid]
      exact ⟨rfl, rfl, rfl, rfl⟩
  · have halike := (encoding_eq_iff_alike (separable_unchecked none hxy)
      (separable_unchecked none hyx)).1 hsame
    exact absurd halike.patterns (by decide)

end NamingLint.Config
