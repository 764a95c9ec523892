import Conduit.Proofs.Text
import Conduit.Spec

/-! # The text of a spec

A spec has no escapes, so its text tells it in full only if blanks and separators stand where they
are read as such. Reading yields tokens of this kind alone, and all of them come back from their
text, except for a token without key and value that stands by itself: its text is blank. -/

namespace Conduit

namespace Token

/-- Reading the token's text gives it back: no blanks at the ends of its parts, and no separator
where it would be read as one. -/
structure Readable (t : Token) : Prop where
  key_trimmed : Text.trim t.key = t.key
  bar_not_mem_key : '|' ∉ t.key.toList
  equals_not_mem_key : '=' ∉ t.key.toList
  value_trimmed : Text.trim t.value = t.value
  bar_not_mem_value : '|' ∉ t.value.toList

theorem readable_parse {text : String} (hbar : '|' ∉ text.toList) : (parse text).Readable := by
  rw [parse]
  cases hsplit : Text.splitFirst '=' text with
  | none =>
      have hequals := Text.splitFirst_eq_none_iff.mp hsplit
      have hempty : Text.trim "" = "" := rfl
      refine ⟨Text.trim_trim text, ?_, ?_, hempty, List.not_mem_nil⟩
      · exact fun h => hbar (Text.mem_of_mem_trim h)
      · exact fun h => hequals (Text.mem_of_mem_trim h)
  | some parts =>
      obtain ⟨key, value⟩ := parts
      obtain ⟨htext, hequals⟩ := Text.splitFirst_eq_some_iff.mp hsplit
      rw [htext, List.mem_append, List.mem_cons, not_or, not_or] at hbar
      obtain ⟨hkey, -, hvalue⟩ := hbar
      refine ⟨Text.trim_trim key, ?_, ?_, Text.trim_trim value, ?_⟩
      · exact fun h => hkey (Text.mem_of_mem_trim h)
      · exact fun h => hequals (Text.mem_of_mem_trim h)
      · exact fun h => hvalue (Text.mem_of_mem_trim h)

theorem Readable.parse_text {t : Token} (h : t.Readable) : parse t.text = t := by
  obtain ⟨key, value⟩ := t
  by_cases hvalue : value = ""
  · subst hvalue
    have hsplit : Text.splitFirst '=' key = none :=
      Text.splitFirst_eq_none_iff.mpr h.equals_not_mem_key
    simp only [text, if_true, parse, hsplit, h.key_trimmed]
  · have hsplit : Text.splitFirst '=' (key ++ "=" ++ value) = some (key, value) := by
      refine Text.splitFirst_eq_some_iff.mpr ⟨?_, h.equals_not_mem_key⟩
      simp
    simp only [text, if_neg hvalue, parse, hsplit, h.key_trimmed, h.value_trimmed]

theorem Readable.bar_not_mem_text {t : Token} (h : t.Readable) : '|' ∉ t.text.toList := by
  rw [text]
  split
  · exact h.bar_not_mem_key
  · simp [h.bar_not_mem_key, h.bar_not_mem_value]

theorem Readable.trim_text_eq_empty_iff {t : Token} (h : t.Readable) :
    Text.trim t.text = "" ↔ t = ⟨"", ""⟩ := by
  constructor
  · intro hblank
    rw [Text.trim_eq_empty_iff] at hblank
    obtain ⟨key, value⟩ := t
    have hvalue : value = "" := by
      by_contra hvalue
      have hequals := hblank '=' (by simp [text, hvalue])
      exact absurd hequals (by decide)
    subst hvalue
    have hkey : Text.trim key = "" := (Text.trim_eq_empty_iff key).mpr hblank
    have htrimmed : Text.trim key = key := h.key_trimmed
    rw [← htrimmed, hkey]
  · rintro rfl
    decide

end Token

namespace Spec

theorem readable_of_mem_parse {s : String} {t : Token} (h : t ∈ (parse s).tokens) :
    t.Readable := by
  rw [parse] at h
  split at h
  · cases h
  · obtain ⟨piece, hpiece, rfl⟩ := List.mem_map.mp h
    exact Token.readable_parse (Text.not_mem_of_mem_splitAt hpiece)

theorem splitAt_text {tokens : List Token} (h : ∀ t ∈ tokens, t.Readable) (hne : tokens ≠ []) :
    Text.splitAt '|' (text ⟨tokens⟩) = tokens.map Token.text := by
  refine Text.splitAt_joinWith ?_ (by simpa using hne)
  intro piece hpiece
  obtain ⟨t, ht, rfl⟩ := List.mem_map.mp hpiece
  exact (h t ht).bar_not_mem_text

/-- The text of two tokens or more has a bar, which is no blank. -/
theorem trim_text_eq_empty_iff {tokens : List Token} (h : ∀ t ∈ tokens, t.Readable) :
    Text.trim (text ⟨tokens⟩) = "" ↔ tokens = [] ∨ tokens = [⟨"", ""⟩] := by
  match tokens with
  | [] => exact iff_of_true (by decide) (.inl rfl)
  | [t] =>
      have htext : text ⟨[t]⟩ = t.text := by simp [text, Text.joinWith]
      rw [htext, (h t List.mem_cons_self).trim_text_eq_empty_iff]
      simp
  | t :: u :: rest =>
      refine iff_of_false ?_ (by simp)
      intro hblank
      have hbar := (Text.trim_eq_empty_iff _).mp hblank '|' (by simp [text, Text.joinWith])
      exact absurd hbar (by decide)

theorem parse_text {tokens : List Token} (h : ∀ t ∈ tokens, t.Readable)
    (hne : tokens ≠ [⟨"", ""⟩]) : parse (text ⟨tokens⟩) = ⟨tokens⟩ := by
  by_cases hnil : tokens = []
  · subst hnil
    decide
  · have hblank : Text.trim (text ⟨tokens⟩) ≠ "" := by
      rw [Ne, trim_text_eq_empty_iff h, not_or]
      exact ⟨hnil, hne⟩
    have htokens : (tokens.map Token.text).map Token.parse = tokens := by
      rw [List.map_map]
      calc tokens.map (Token.parse ∘ Token.text)
          = tokens.map id := List.map_congr_left fun t ht => (h t ht).parse_text
        _ = tokens := List.map_id tokens
    rw [parse, if_neg hblank, splitAt_text h hnil, htokens]

/-- The token that says nothing is lost if it stands by itself. -/
theorem parse_text_blank : parse (text ⟨[⟨"", ""⟩]⟩) = empty := rfl

theorem parse_text_eq_self_iff (spec : Spec) :
    parse spec.text = spec ↔ (∀ t ∈ spec.tokens, t.Readable) ∧ spec ≠ ⟨[⟨"", ""⟩]⟩ := by
  constructor
  · intro h
    refine ⟨?_, ?_⟩
    · rw [← h]
      exact fun t => readable_of_mem_parse
    · rintro rfl
      rw [parse_text_blank] at h
      cases h
  · rintro ⟨hreadable, hne⟩
    refine parse_text hreadable fun htokens => hne ?_
    rw [← htokens]

/-- A list of tokens comes back from its text exactly if every token is readable and the list is
not a single token without key and value. Every text is read to such tokens, so what was read once
comes back unless it is that single token. -/
theorem parse_text_eq_iff :
    (∀ tokens : List Token, parse (text ⟨tokens⟩) = ⟨tokens⟩ ↔
      (∀ t ∈ tokens, t.Readable) ∧ tokens ≠ [⟨"", ""⟩]) ∧
    ∀ s : String, (∀ t ∈ (parse s).tokens, t.Readable) ∧
      (parse (parse s).text = parse s ↔ parse s ≠ ⟨[⟨"", ""⟩]⟩) := by
  have hread : ∀ s : String, ∀ t ∈ (parse s).tokens, t.Readable := fun s t => readable_of_mem_parse
  refine ⟨fun tokens => ?_, fun s => ⟨hread s, ?_⟩⟩
  · rw [parse_text_eq_self_iff, Ne, Spec.mk.injEq]
  · rw [parse_text_eq_self_iff]
    exact and_iff_right (hread s)

/-- It is read from a lone separator. -/
example : parse "=" = ⟨[⟨"", ""⟩]⟩ := by decide

end Spec

end Conduit
