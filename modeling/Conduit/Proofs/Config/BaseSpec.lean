import Conduit.Config.Basic
import Conduit.Proofs.Spec.Inheritance
import Conduit.Proofs.Spec.RoundTrip

/-! # The base spec of a configuration

A configuration judges its base spec by the trimmed items of its text, and a pipeline by the keys and
values that it reads from them. The two readings differ where an item has a `=`: one that starts with
it has no key, and `...` with an empty value is still `...`. Every other item that a valid
configuration has is one that routes can be based on. -/

namespace Conduit

/-! ## One item, read in two ways -/

namespace Token

theorem parse_of_not_mem {item : String} (h : '=' ∉ item.toList) :
    parse item = ⟨Text.trim item, ""⟩ := by
  rw [parse, Text.splitFirst_eq_none_iff.mpr h]

theorem parse_of_cut {key : String} (h : '=' ∉ key.toList) (value : String) :
    parse (key ++ "=" ++ value) = ⟨Text.trim key, Text.trim value⟩ := by
  have hsplit : Text.splitFirst '=' (key ++ "=" ++ value) = some (key, value) :=
    Text.splitFirst_eq_some_iff.mpr ⟨by simp, h⟩
  rw [parse, hsplit]

theorem cut_cases (item : String) :
    '=' ∉ item.toList ∨ ∃ key value, '=' ∉ key.toList ∧ item = key ++ "=" ++ value := by
  cases hsplit : Text.splitFirst '=' item with
  | none => exact .inl (Text.splitFirst_eq_none_iff.mp hsplit)
  | some parts =>
      obtain ⟨htext, hkey⟩ := Text.splitFirst_eq_some_iff.mp hsplit
      refine .inr ⟨parts.1, parts.2, hkey, ?_⟩
      rw [← String.toList_inj, htext]
      simp

theorem equals_not_mem_of_blank {blanks : String} (h : Text.trim blanks = "") :
    '=' ∉ blanks.toList := by
  intro hmem
  exact absurd ((Text.trim_eq_empty_iff blanks).mp h '=' hmem) (by decide)

theorem parse_trim (piece : String) : parse (Text.trim piece) = parse piece := by
  obtain ⟨front, back, hfront, hback, hpiece⟩ := Text.exists_eq_trim piece
  rcases cut_cases (Text.trim piece) with hitem | ⟨key, value, hkey, hitem⟩
  · have hwhole : '=' ∉ piece.toList := by
      rw [hpiece]
      simp [hitem, equals_not_mem_of_blank hfront, equals_not_mem_of_blank hback]
    rw [parse_of_not_mem hitem, parse_of_not_mem hwhole, Text.trim_trim]
  · have hwhole : piece = front ++ key ++ "=" ++ (value ++ back) := by
      rw [hpiece, hitem]
      simp only [String.append_assoc]
    have hfrontKey : '=' ∉ (front ++ key).toList := by
      simp [hkey, equals_not_mem_of_blank hfront]
    have hnone : Text.trim "" = "" := rfl
    have hkeys : Text.trim (front ++ key) = Text.trim key := by
      simpa using Text.trim_append_of_blank (s := key) hfront hnone
    have hvalues : Text.trim (value ++ back) = Text.trim value := by
      simpa using Text.trim_append_of_blank (s := value) hnone hback
    calc parse (Text.trim piece)
        = ⟨Text.trim key, Text.trim value⟩ := by rw [hitem, parse_of_cut hkey]
      _ = ⟨Text.trim (front ++ key), Text.trim (value ++ back)⟩ := by rw [hkeys, hvalues]
      _ = parse piece := by rw [hwhole, parse_of_cut hfrontKey]

/-- The item has a value at most: nothing stands before its `=`. -/
def IsKeyless (item : String) : Prop := ∃ value, item = "=" ++ value

/-- The item is `...` with a value that is left empty. -/
def IsOpenEllipsis (item : String) : Prop :=
  ∃ gap, Text.trim gap = "" ∧ item = "..." ++ gap ++ "="

theorem IsKeyless.key_parse {item : String} (h : IsKeyless item) : (parse item).key = "" := by
  obtain ⟨value, rfl⟩ := h
  have hparse := parse_of_cut (by simp : '=' ∉ "".toList) value
  rw [String.empty_append] at hparse
  rw [hparse]
  rfl

theorem IsOpenEllipsis.parse {item : String} (h : IsOpenEllipsis item) :
    parse item = ⟨"...", ""⟩ := by
  obtain ⟨gap, hgap, rfl⟩ := h
  have hkey : '=' ∉ ("..." ++ gap).toList := by simp [equals_not_mem_of_blank hgap]
  have hdots : Text.trim ("" ++ "..." ++ gap) = Text.trim "..." :=
    Text.trim_append_of_blank rfl hgap
  rw [String.empty_append] at hdots
  have hparse := parse_of_cut hkey ""
  rw [String.append_empty, hdots] at hparse
  exact hparse

theorem trim_openEllipsis (gap : String) :
    Text.trim ("..." ++ gap ++ "=") = "..." ++ gap ++ "=" := by
  have hlast : (".." ++ gap ++ "=").toList.rdropWhile Text.isBlank = (".." ++ gap ++ "=").toList := by
    rw [String.toList_append]
    exact List.rdropWhile_concat_neg _ _ _ (by decide)
  have hcut := Text.trimList_cons_of_not_blank (c := '.') (by decide) (".." ++ gap ++ "=").toList
  rw [hlast] at hcut
  rw [← String.toList_inj, Text.trim, String.toList_ofList]
  simpa using hcut

theorem key_parse_eq_empty_iff {item : String} (hitem : Text.trim item = item) :
    (parse item).key = "" ↔ item = "" ∨ IsKeyless item := by
  constructor
  · intro hblank
    rcases cut_cases item with hequals | ⟨key, value, hkey, hcut⟩
    · rw [parse_of_not_mem hequals, hitem] at hblank
      exact .inl hblank
    · right
      rw [hcut, parse_of_cut hkey] at hblank
      have hrest : item = Text.trim ("=" ++ value) := by
        have htrim := Text.trim_append_of_blank (s := "=" ++ value) hblank
          (rfl : Text.trim "" = "")
        rwa [String.append_empty, ← String.append_assoc, ← hcut, hitem] at htrim
      refine ⟨String.ofList (value.toList.rdropWhile Text.isBlank), ?_⟩
      have htail := Text.trimList_cons_of_not_blank (c := '=') (by decide) value.toList
      rw [hrest, Text.trim, String.toList_append, ← String.toList_inj]
      simpa using htail
  · rintro (rfl | hkeyless)
    · rfl
    · exact hkeyless.key_parse

/-- A trimmed item is read as `...` only if it is `...`, with or without a `=` behind it. -/
theorem isEllipsis_parse_iff {item : String} (hitem : Text.trim item = item) :
    (parse item).isEllipsis = true ↔ item = "..." ∨ IsOpenEllipsis item := by
  rw [isEllipsis_iff]
  constructor
  · intro htoken
    rcases cut_cases item with hequals | ⟨key, value, hkey, hcut⟩
    · rw [parse_of_not_mem hequals, hitem] at htoken
      exact .inl (Token.mk.inj htoken).1
    · right
      rw [hcut, parse_of_cut hkey] at htoken
      obtain ⟨hdots, hvalue⟩ := Token.mk.inj htoken
      obtain ⟨front, gap, hfront, hgap, hparts⟩ := Text.exists_eq_trim key
      refine ⟨gap, hgap, ?_⟩
      rw [hdots] at hparts
      have htrim := Text.trim_append_of_blank (s := "..." ++ gap ++ "=") hfront hvalue
      rw [trim_openEllipsis] at htrim
      rw [← htrim, ← hitem, hcut, hparts]
      simp only [String.append_assoc]
  · rintro (rfl | hopen)
    · rfl
    · exact hopen.parse

end Token

/-! ## The tokens behind the items -/

namespace Spec

/-- The items are what the tokens are read from; the pieces between them that are blank are read to
the token that says nothing. -/
theorem exists_mem_parse_iff {P : Token → Prop} (hP : ¬ P ⟨"", ""⟩) (s : String) :
    (∃ t ∈ (parse s).tokens, P t) ↔ ∃ item ∈ Config.specTokens s, P (Token.parse item) := by
  have hitems : (∃ item ∈ Config.specTokens s, P (Token.parse item)) ↔
      ∃ piece ∈ Text.splitAt '|' s, P (Token.parse piece) := by
    constructor
    · rintro ⟨item, hitem, ht⟩
      obtain ⟨piece, hpiece, rfl⟩ := List.mem_map.mp (List.mem_of_mem_filter hitem)
      rw [Token.parse_trim] at ht
      exact ⟨piece, hpiece, ht⟩
    · rintro ⟨piece, hpiece, ht⟩
      rw [← Token.parse_trim] at ht
      have hkept : Text.trim piece ≠ "" := by
        intro hblank
        rw [hblank] at ht
        exact hP ht
      have hitem : Text.trim piece ∈ Config.specTokens s :=
        List.mem_filter.mpr ⟨List.mem_map_of_mem hpiece, by simpa using hkept⟩
      exact ⟨Text.trim piece, hitem, ht⟩
  rw [hitems, parse]
  split
  · rename_i hblank
    refine iff_of_false (by simp [empty]) ?_
    rintro ⟨piece, hpiece, ht⟩
    rw [← Token.parse_trim, Text.trim_of_mem_splitAt hblank hpiece] at ht
    exact hP ht
  · simp

/-- What routes can be based on: a spec that names a stage and asks for no stages of another. -/
structure Usable (s : Spec) : Prop where
  named : ∃ t ∈ s.tokens, t.key ≠ ""
  closed : ∀ t ∈ s.tokens, t.isEllipsis = false

theorem inherits_eq_false_iff (s : Spec) :
    s.inherits = false ↔ ∀ t ∈ s.tokens, t.isEllipsis = false := by
  rw [← Bool.not_eq_true, inherits_iff]
  simp

/-- An empty route takes the base as it is, so a `...` of the base reaches it. -/
theorem forall_inherit_closed_iff (base : Spec) :
    (∀ route : String, ((parse route).inherit base).inherits = false) ↔ base.inherits = false := by
  constructor
  · intro h
    exact h ""
  · intro hbase route
    by_contra hroute
    rw [inherits_of_inherit (eq_true_of_ne_false hroute)] at hbase
    cases hbase

end Spec

/-! ## What validation admits -/

namespace Config

theorem trim_of_mem_specTokens {item s : String} (h : item ∈ specTokens s) :
    Text.trim item = item := by
  obtain ⟨piece, -, rfl⟩ := List.mem_map.mp (List.mem_of_mem_filter h)
  exact Text.trim_trim piece

theorem ne_empty_of_mem_specTokens {item s : String} (h : item ∈ specTokens s) : item ≠ "" := by
  simpa using (List.mem_filter.mp h).2

theorem none_of_check {p : Prop} [Decidable p] {e : ConfigError} {rest : Option ConfigError} :
    (if p then some e else rest) = none ↔ ¬ p ∧ rest = none := by
  split <;> simp [*]

theorem validate_eq_ok_iff (c : Config) :
    c.validate = .ok c ↔ (Net.SocketAddress.parse? c.server.httpAddr).isSome = true ∧
      c.server.requestTimeout ≠ 0 ∧ c.pipeline.maxBodySize ≠ 0 ∧
      specTokens c.pipeline.defaultSpec ≠ [] ∧ "..." ∉ specTokens c.pipeline.defaultSpec := by
  have hvalid : c.validate = .ok c ↔ c.fault? = none := by
    unfold validate
    generalize c.fault? = fault
    cases fault with
    | none => simp
    | some e => simp
  rw [hvalid]
  unfold fault?
  simp only [none_of_check, List.isEmpty_iff, List.contains_iff_mem, ← Option.not_isSome,
    Bool.not_eq_true', Bool.not_eq_false, and_true, ne_eq]

theorem isEmpty_parse_of_specTokens {s : String} (h : specTokens s ≠ []) :
    (Spec.parse s).isEmpty = false := by
  rw [Spec.parse]
  split
  · rename_i hblank
    refine absurd (List.filter_eq_nil_iff.mpr fun item hitem => ?_) h
    obtain ⟨piece, hpiece, rfl⟩ := List.mem_map.mp hitem
    simp [Text.trim_of_mem_splitAt hblank hpiece]
  · simp [Spec.isEmpty, Text.splitAt, List.splitOn_ne_nil]

theorem exists_key_ne_empty_iff (s : String) :
    (∃ t ∈ (Spec.parse s).tokens, t.key ≠ "") ↔ ∃ item ∈ specTokens s, ¬ Token.IsKeyless item := by
  rw [Spec.exists_mem_parse_iff (P := fun t => t.key ≠ "") (by simp)]
  refine exists_congr fun item => and_congr_right fun hitem => not_congr ?_
  rw [Token.key_parse_eq_empty_iff (trim_of_mem_specTokens hitem)]
  exact or_iff_right (ne_empty_of_mem_specTokens hitem)

theorem inherits_parse_iff (s : String) :
    (Spec.parse s).inherits = true ↔
      "..." ∈ specTokens s ∨ ∃ item ∈ specTokens s, Token.IsOpenEllipsis item := by
  rw [Spec.inherits_iff, Spec.exists_mem_parse_iff (P := fun t => t.isEllipsis = true) (by decide)]
  constructor
  · rintro ⟨item, hitem, hellipsis⟩
    rcases (Token.isEllipsis_parse_iff (trim_of_mem_specTokens hitem)).mp hellipsis with rfl | hopen
    · exact .inl hitem
    · exact .inr ⟨item, hitem, hopen⟩
  · rintro (hitem | ⟨item, hitem, hopen⟩)
    · exact ⟨"...", hitem, rfl⟩
    · exact ⟨item, hitem, (Token.isEllipsis_parse_iff (trim_of_mem_specTokens hitem)).mpr (.inr hopen)⟩

/-- The base spec of a valid configuration is never the empty one. It names a stage exactly if some
item is more than a `=` with a value. A `...` is left in it, and through it in what some route
inherits, exactly if some item is `...` with a value that is left empty. -/
theorem usable_iff_of_validate {c : Config} (hvalid : c.validate = .ok c) :
    (Spec.parse c.pipeline.defaultSpec).isEmpty = false ∧
    ((∃ t ∈ (Spec.parse c.pipeline.defaultSpec).tokens, t.key ≠ "") ↔
      ∃ item ∈ specTokens c.pipeline.defaultSpec, ¬ Token.IsKeyless item) ∧
    ((∀ t ∈ (Spec.parse c.pipeline.defaultSpec).tokens, t.isEllipsis = false) ↔
      ∀ item ∈ specTokens c.pipeline.defaultSpec, ¬ Token.IsOpenEllipsis item) ∧
    ((∀ route : String,
        ((Spec.parse route).inherit (Spec.parse c.pipeline.defaultSpec)).inherits = false) ↔
      ∀ item ∈ specTokens c.pipeline.defaultSpec, ¬ Token.IsOpenEllipsis item) := by
  obtain ⟨-, -, -, hnamed, hdots⟩ := c.validate_eq_ok_iff.mp hvalid
  have hclosed : (Spec.parse c.pipeline.defaultSpec).inherits = false ↔
      ∀ item ∈ specTokens c.pipeline.defaultSpec, ¬ Token.IsOpenEllipsis item := by
    rw [← Bool.not_eq_true, inherits_parse_iff, or_iff_right hdots]
    simp
  refine ⟨isEmpty_parse_of_specTokens hnamed, exists_key_ne_empty_iff _, ?_, ?_⟩
  · rw [← Spec.inherits_eq_false_iff, hclosed]
  · rw [Spec.forall_inherit_closed_iff, hclosed]

def withBase (spec : String) : Config :=
  { standard with pipeline := { PipelineSection.standard with defaultSpec := spec } }

/-- A `...` with a value asks for a stage of that name, and an item without a key spoils no other. -/
theorem withBase_usable :
    (withBase " |req=Q|...=1| =x|handle").validate = .ok (withBase " |req=Q|...=1| =x|handle") ∧
    (∃ t ∈ (Spec.parse " |req=Q|...=1| =x|handle").tokens, t.key ≠ "") ∧
    ∀ route : String,
      ((Spec.parse route).inherit (Spec.parse " |req=Q|...=1| =x|handle")).inherits = false := by
  have hvalid : (withBase " |req=Q|...=1| =x|handle").validate =
      .ok (withBase " |req=Q|...=1| =x|handle") := (validate_eq_ok_iff _).mpr (by decide)
  have hitems : specTokens " |req=Q|...=1| =x|handle" = ["req=Q", "...=1", "=x", "handle"] := by
    decide
  obtain ⟨-, hnamed, -, hroutes⟩ := usable_iff_of_validate hvalid
  refine ⟨hvalid, hnamed.mpr ?_, hroutes.mpr ?_⟩
  · refine ⟨"handle", by decide, ?_⟩
    rintro ⟨value, hvalue⟩
    simpa using congrArg String.toList hvalue
  · rintro item hitem ⟨gap, -, rfl⟩
    change _ ∈ specTokens " |req=Q|...=1| =x|handle" at hitem
    rw [hitems] at hitem
    have hone : gap.toList ++ ['='] = ['=', '1'] := by
      simpa [← String.toList_inj] using hitem
    simpa using congrArg List.getLast? hone

/-- Two valid base specs that routes cannot be based on: the one is `...` to the reader of tokens,
and the other names no stage. -/
theorem validate_admits_unusable :
    ((withBase "...=").validate = .ok (withBase "...=") ∧ ¬ (Spec.parse "...=").Usable ∧
      ((Spec.parse "").inherit (Spec.parse "...=")).inherits = true) ∧
    (withBase "=").validate = .ok (withBase "=") ∧ ¬ (Spec.parse "=").Usable := by
  refine ⟨⟨(validate_eq_ok_iff _).mpr (by decide), ?_, by decide⟩,
    (validate_eq_ok_iff _).mpr (by decide), ?_⟩
  · intro husable
    exact absurd husable.closed (by decide)
  · intro husable
    exact absurd husable.named (by decide)

end Config

end Conduit
