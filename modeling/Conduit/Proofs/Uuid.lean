import Mathlib.Data.List.Basic
import Conduit.Proofs.WebSocket.Handshake
import Conduit.Uuid

/-! # Spellings of an id

An id is spelled by its digits alone, or with hyphens between five groups of them, as they are, in
braces or behind a name; letters may be of either case. Every spelling is read and nothing else is.
What an id is written as is the spelling with hyphens that has no letter in upper case. -/

namespace Conduit

/-! ## Digits -/

theorem Hex.value?_digit (d : Fin 16) : value? (digit d.val).toNat = some d.val := by
  revert d
  decide

theorem Hex.toLower_digit (d : Fin 16) : (digit d.val).toLower = digit d.val := by
  revert d
  decide

namespace Uuid

theorem digit?_digit (d : Fin 16) : digit? (Hex.digit d.val) = some d := by
  rw [digit?, Hex.value?_digit]
  exact congrArg some (Fin.ofNat_val_eq_self d)

theorem code_of_digit? {c : Char} {d : Fin 16} (h : digit? c = some d) :
    (48 ≤ c.toNat ∧ c.toNat ≤ 57) ∨ (65 ≤ c.toNat ∧ c.toNat ≤ 70) ∨
      (97 ≤ c.toNat ∧ c.toNat ≤ 102) := by
  obtain ⟨n, hvalue, -⟩ := Option.map_eq_some_iff.mp h
  unfold Hex.value? at hvalue
  split at hvalue
  · exact .inl ‹_›
  · split at hvalue
    · exact .inr (.inl ‹_›)
    · split at hvalue
      · exact .inr (.inr ‹_›)
      · cases hvalue

theorem eq_digit_of_lower {c : Char} {d : Fin 16} (h : digit? c = some d) (hlower : c.toLower = c) :
    c = Hex.digit d.val := by
  have hall : ∀ n < 128, ∀ d : Fin 16, digit? (Char.ofNat n) = some d →
      (Char.ofNat n).toLower = Char.ofNat n → Char.ofNat n = Hex.digit d.val := by
    decide +kernel
  have hcode : c.toNat < 128 := by
    have := code_of_digit? h
    omega
  have hc : Char.ofNat c.toNat = c := Char.ofNat_toNat c
  have hdigit := hall c.toNat hcode d
  rw [hc] at hdigit
  exact hdigit h hlower

/-! ## Spellings -/

section Spellings

variable (u : Uuid)

/-- The characters are the digits of the id in order. -/
def SpelledBy (cs : List Char) : Prop := cs.map digit? = u.digits.map some

/-- So are those of five groups with hyphens between them. -/
inductive Hyphenated (cs : List Char) : Prop
  | groups (a b c d e : List Char) (hcs : cs = ['-'].intercalate [a, b, c, d, e])
      (hspelled : u.SpelledBy (a ++ b ++ c ++ d ++ e))
      (hlengths : a.length = 8 ∧ b.length = 4 ∧ c.length = 4 ∧ d.length = 4 ∧ e.length = 12)

/-- How an id may be spelled. -/
inductive Spelling (s : String) : Prop
  | bare (h : u.SpelledBy s.toList)
  | hyphenated (h : u.Hyphenated s.toList)
  | braced {cs} (h : u.Hyphenated cs) (hs : s.toList = '\x7b' :: (cs ++ ['\x7d']))
  | named {cs} (h : u.Hyphenated cs) (hs : s.toList = "urn:uuid:".toList ++ cs)

/-- The spelling that ids are written in. -/
structure Canonical (s : String) : Prop where
  hyphenated : u.Hyphenated s.toList
  lower : Text.lower s = s

end Spellings

variable {u : Uuid} {cs : List Char} {s : String}

theorem SpelledBy.length (h : u.SpelledBy cs) : cs.length = 32 := by
  have hlength := congrArg List.length h
  rwa [List.length_map, List.length_map, u.length_digits] at hlength

theorem SpelledBy.exists_digit? (h : u.SpelledBy cs) {c : Char} (hc : c ∈ cs) :
    ∃ d, digit? c = some d := by
  have hmem : digit? c ∈ u.digits.map some := h ▸ List.mem_map_of_mem hc
  obtain ⟨d, -, hd⟩ := List.mem_map.mp hmem
  exact ⟨d, hd.symm⟩

theorem SpelledBy.hyphen_not_mem (h : u.SpelledBy cs) : '-' ∉ cs := by
  intro hmem
  obtain ⟨d, hd⟩ := h.exists_digit? hmem
  have := code_of_digit? hd
  simp at this

theorem SpelledBy.eq_of_lower (h : u.SpelledBy cs) (hlower : ∀ c ∈ cs, c.toLower = c) :
    cs = u.digits.map fun digit => Hex.digit digit.val := by
  have hlength : cs.length = u.digits.length := by rw [h.length, u.length_digits]
  refine List.ext_getElem (by rw [hlength, List.length_map]) fun i hi _ => ?_
  have hi' : i < u.digits.length := hlength ▸ hi
  have hdigit : digit? cs[i] = some u.digits[i] := by
    have hget := congrArg (·[i]?) h
    simpa [hi, hi'] using hget
  rw [List.getElem_map]
  exact eq_digit_of_lower hdigit (hlower _ (List.getElem_mem hi))

theorem Hyphenated.length (h : u.Hyphenated cs) : cs.length = 36 := by
  obtain ⟨a, b, c, d, e, rfl, -, ha, hb, hc, hd, he⟩ := h
  simp [List.intercalate, ha, hb, hc, hd, he]

theorem mem_groups {a b c d e : List Char} {ch : Char} :
    ch ∈ ['-'].intercalate [a, b, c, d, e] ↔ ch = '-' ∨ ch ∈ a ++ b ++ c ++ d ++ e := by
  simp only [List.intercalate, List.intersperse, List.flatten_cons, List.flatten_nil,
    List.mem_append, List.mem_singleton, List.not_mem_nil, or_false]
  tauto

theorem Hyphenated.mem_cases (h : u.Hyphenated cs) {ch : Char} (hch : ch ∈ cs) :
    ch = '-' ∨ ∃ digit, digit? ch = some digit := by
  obtain ⟨a, b, c, d, e, rfl, hspelled, -⟩ := h
  exact (mem_groups.mp hch).imp_right hspelled.exists_digit?

/-! ## Reading -/

theorem mapM_digit?_eq_some_iff {digits : List (Fin 16)} :
    cs.mapM digit? = some digits ↔ cs.map digit? = digits.map some := by
  induction cs generalizing digits with
  | nil => cases digits <;> simp
  | cons c rest ih =>
      rw [List.mapM_cons, List.map_cons]
      cases hc : digit? c with
      | none => cases digits <;> simp
      | some d =>
          cases digits with
          | nil => cases rest.mapM digit? <;> simp
          | cons d' digits =>
              cases hrest : rest.mapM digit? with
              | none => simp [hrest, ← ih]
              | some found => simp [hrest, ← ih]

theorem ofDigits?_eq_some_iff : ofDigits? cs = some u ↔ u.SpelledBy cs := by
  obtain ⟨digits, hlength⟩ := u
  rw [SpelledBy, ← mapM_digit?_eq_some_iff, ofDigits?]
  cases cs.mapM digit? with
  | none => simp
  | some found =>
      by_cases hfound : found.length = 32
      · simp [hfound]
      · simp only [hfound, dif_neg, not_false_eq_true, Option.some.injEq]
        constructor
        · exact nofun
        · rintro rfl
          exact absurd hlength hfound

theorem ofHyphenated?_eq_some_iff : ofHyphenated? cs = some u ↔ u.Hyphenated cs := by
  rw [ofHyphenated?]
  constructor
  · intro h
    have hjoin : ['-'].intercalate (cs.splitOn '-') = cs := List.intercalate_splitOn '-'
    split at h
    · rename_i a b c d e hsplit
      split at h
      · rename_i hlengths
        rw [hsplit] at hjoin
        exact ⟨a, b, c, d, e, hjoin.symm, ofDigits?_eq_some_iff.mp h, hlengths⟩
      · cases h
    · cases h
  · rintro ⟨a, b, c, d, e, rfl, hspelled, hlengths⟩
    have hsplit : (['-'].intercalate [a, b, c, d, e]).splitOn '-' = [a, b, c, d, e] := by
      refine List.splitOn_intercalate '-' (fun group hgroup hmem => ?_) (by simp)
      refine hspelled.hyphen_not_mem ?_
      simp only [List.mem_cons, List.not_mem_nil, or_false] at hgroup
      rcases hgroup with rfl | rfl | rfl | rfl | rfl <;> simp [hmem]
    simp only [hsplit]
    rw [if_pos hlengths, ofDigits?_eq_some_iff]
    exact hspelled

theorem exists_eq_of_ends {opening closing : Char} (hopening : cs.head? = some opening)
    (hclosing : cs.getLast? = some closing) (hlength : 2 ≤ cs.length) :
    ∃ inner, cs = opening :: (inner ++ [closing]) := by
  cases cs with
  | nil => cases hopening
  | cons first rest =>
      obtain rfl : first = opening := Option.some.inj hopening
      cases rest using List.reverseRecOn with
      | nil => simp at hlength
      | append_singleton inner last =>
          rw [← List.cons_append, List.getLast?_concat, Option.some.injEq] at hclosing
          exact ⟨inner, by rw [hclosing]⟩

/-- Exactly the spellings of an id are read as that id. -/
theorem parse?_eq_some_iff : parse? s = some u ↔ u.Spelling s := by
  constructor
  · intro h
    rw [parse?] at h
    split at h
    · exact .bare (ofDigits?_eq_some_iff.mp h)
    · split at h
      · exact .hyphenated (ofHyphenated?_eq_some_iff.mp h)
      · split at h
        · rename_i hends
          obtain ⟨hlength, hopening, hclosing⟩ := hends
          obtain ⟨inner, hs⟩ := exists_eq_of_ends hopening hclosing (by omega)
          have hinner : (s.toList.drop 1).dropLast = inner := by
            rw [hs, List.drop_one, List.tail_cons, List.dropLast_concat]
          rw [hinner] at h
          exact .braced (ofHyphenated?_eq_some_iff.mp h) hs
        · split at h
          · split at h
            · rename_i rest hrest
              have hs := List.isPrefixOf?_eq_some_iff_append_eq.mp hrest
              exact .named (ofHyphenated?_eq_some_iff.mp h) hs.symm
            · cases h
          · cases h
  · intro h
    cases h with
    | bare h =>
        simp only [parse?, h.length, if_true]
        exact ofDigits?_eq_some_iff.mpr h
    | hyphenated h =>
        simp only [parse?, h.length]
        exact ofHyphenated?_eq_some_iff.mpr h
    | braced h hs =>
        have hinner := ofHyphenated?_eq_some_iff.mpr h
        have hclosing : s.toList.getLast? = some '\x7d' := by
          rw [hs, ← List.cons_append, List.getLast?_concat]
        simp only [parse?, hclosing]
        simpa [hs, h.length] using hinner
    | named h hs =>
        have hrest := ofHyphenated?_eq_some_iff.mpr h
        have hlength : s.toList.length = 45 := by
          rw [hs, List.length_append, h.length]
          rfl
        have hlead : "urn:uuid:".toList.isPrefixOf? s.toList = some _ :=
          List.isPrefixOf?_eq_some_iff_append_eq.mpr hs.symm
        simp only [parse?, hlength, hlead]
        simpa using hrest

/-! ## Writing -/

theorem exists_groups (hlength : cs.length = 32) :
    ∃ a b c d e, cs = a ++ b ++ c ++ d ++ e ∧
      a.length = 8 ∧ b.length = 4 ∧ c.length = 4 ∧ d.length = 4 ∧ e.length = 12 := by
  have hsplit : ∀ i j, (cs.drop i).take j ++ cs.drop (i + j) = cs.drop i := by
    intro i j
    rw [← List.drop_drop, List.take_append_drop]
  refine ⟨cs.take 8, (cs.drop 8).take 4, (cs.drop 12).take 4, (cs.drop 16).take 4, cs.drop 20,
    ?_, by simp [hlength]⟩
  simp only [List.append_assoc, hsplit, List.take_append_drop]

theorem toList_text {a b c d e : List Char}
    (hdigits : u.digits.map (fun digit => Hex.digit digit.val) = a ++ b ++ c ++ d ++ e)
    (ha : a.length = 8) (hb : b.length = 4) (hc : c.length = 4) (hd : d.length = 4) :
    u.text.toList = ['-'].intercalate [a, b, c, d, e] := by
  rw [text, String.toList_ofList, hdigits]
  simp [List.drop_append, List.drop_of_length_le, List.intercalate, ha, hb, hc, hd]

theorem lower_eq_iff : Text.lower s = s ↔ ∀ c ∈ s.toList, c.toLower = c := by
  have hmap : s.toList.map Char.toLower = s.toList.map id ↔ ∀ c ∈ s.toList, c.toLower = c :=
    List.map_inj_left
  rw [Text.lower, ← String.toList_inj, String.toList_ofList, ← hmap, List.map_id]

theorem canonical_text (u : Uuid) : u.Canonical u.text := by
  have hspelled : u.SpelledBy (u.digits.map fun digit => Hex.digit digit.val) := by
    rw [SpelledBy, List.map_map]
    exact List.map_congr_left fun digit _ => digit?_digit digit
  obtain ⟨a, b, c, d, e, hdigits, ha, hb, hc, hd, he⟩ := exists_groups hspelled.length
  have htext := toList_text hdigits ha hb hc hd
  refine ⟨⟨a, b, c, d, e, htext, hdigits ▸ hspelled, ha, hb, hc, hd, he⟩, ?_⟩
  rw [lower_eq_iff, htext]
  intro ch hch
  rcases mem_groups.mp hch with rfl | hmem
  · rfl
  · rw [← hdigits] at hmem
    obtain ⟨digit, -, rfl⟩ := List.mem_map.mp hmem
    exact Hex.toLower_digit digit

/-- There is no other spelling with hyphens and without a letter in upper case. -/
theorem canonical_iff : u.Canonical s ↔ s = u.text := by
  constructor
  · rintro ⟨⟨a, b, c, d, e, hs, hspelled, ha, hb, hc, hd, -⟩, hlower⟩
    have hdigits := hspelled.eq_of_lower fun ch hch =>
      lower_eq_iff.mp hlower ch (hs ▸ mem_groups.mpr (.inr hch))
    rw [← String.toList_inj, hs, toList_text hdigits.symm ha hb hc hd]
  · rintro rfl
    exact canonical_text u

example : (parse? "urn:uuid:00112233-4455-6677-8899-AABBCCDDEEFF").map text =
    some "00112233-4455-6677-8899-aabbccddeeff" := by decide +kernel

/-! ## What is written is a header line and reads back -/

theorem Hyphenated.visible (h : u.Hyphenated s.toList) : Header.Visible s := by
  intro c hc
  rcases h.mem_cases hc with rfl | ⟨digit, hdigit⟩
  · exact .inl (by decide)
  · have hcode := code_of_digit? hdigit
    exact .inl (by omega)

theorem visible_text (u : Uuid) : Header.Visible u.text := (canonical_text u).hyphenated.visible

theorem Hyphenated.trim (h : u.Hyphenated s.toList) : Text.trim s = s := by
  refine Text.trim_of_not_blank fun c hc => ?_
  rcases h.mem_cases hc with rfl | ⟨digit, hdigit⟩
  · decide
  · have hcode := code_of_digit? hdigit
    simp only [Text.isBlank, Bool.or_eq_false_iff, Bool.and_eq_false_iff, decide_eq_false_iff_not,
      beq_eq_false_iff_ne]
    omega

end Uuid

theorem RequestId.parse?_text (id : RequestId) : parse? id.text = some id := by
  have hhyphenated := (Uuid.canonical_text id).hyphenated
  rw [parse?, hhyphenated.trim, Uuid.parse?_eq_some_iff]
  exact .hyphenated hhyphenated

end Conduit
