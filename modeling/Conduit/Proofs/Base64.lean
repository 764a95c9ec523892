import Conduit.Proofs.Checks
import Conduit.Proofs.WebSocket.Handshake

/-! # Base64 text for URLs

Bytes are written six bits a symbol, without padding, and the bits that fill no byte are zero. So
bytes have one text, and reading accepts it and no other. -/

namespace Conduit

/-- Different texts are encoded differently. -/
theorem Utf8.encode_injective {s t : String} (h : encode s = encode t) : s = t := by
  have hbytes := congrArg List.toByteArray h
  rw [encode, encode, ← List.utf8Encode, ← List.utf8Encode, ← String.toByteArray_ofList,
    ← String.toByteArray_ofList, String.toByteArray_inj, String.ofList_inj,
    String.toList_inj] at hbytes
  exact hbytes

namespace Base64

/-! ## What bytes are written as -/

/-- Six bits at a time; zeros fill up the last ones. -/
def sextets : Bytes → List ℕ
  | a :: b :: c :: rest =>
    a.toNat / 4 :: (a.toNat % 4 * 16 + b.toNat / 16) :: (b.toNat % 16 * 4 + c.toNat / 64)
      :: c.toNat % 64 :: sextets rest
  | [a, b] => [a.toNat / 4, a.toNat % 4 * 16 + b.toNat / 16, b.toNat % 16 * 4]
  | [a] => [a.toNat / 4, a.toNat % 4 * 16]
  | [] => []

/-- The alphabet for URLs has other symbols in the last two places. -/
def urlSymbol (n : ℕ) : Char :=
  if n = 62 then '-' else if n = 63 then '_' else symbol n

/-- The text of bytes in the alphabet for URLs, without padding. -/
def encodeUrl (bs : Bytes) : String := String.ofList ((sextets bs).map urlSymbol)

/-! ## Symbols -/

theorem urlValue?_urlSymbol {n : ℕ} (h : n < 64) :
    urlValue? (UInt8.ofNat (urlSymbol n).toNat) = some n := by
  revert n
  decide

theorem toNat_urlSymbol_lt {n : ℕ} (h : n < 64) : (urlSymbol n).toNat < 0x80 := by
  revert n
  decide

theorem eq_of_urlValue? {b : UInt8} {n : ℕ} (h : urlValue? b = some n) :
    n < 64 ∧ b = UInt8.ofNat (urlSymbol n).toNat := by
  have hall : ∀ k < 256, ∀ n ∈ urlValue? (UInt8.ofNat k),
      n < 64 ∧ UInt8.ofNat k = UInt8.ofNat (urlSymbol n).toNat := by
    decide +kernel
  have hb := hall b.toNat b.toNat_lt
  rw [UInt8.ofNat_toNat] at hb
  exact hb n h

theorem urlValues_eq_ok_iff {offset : ℕ} {bs : Bytes} {values : List ℕ} :
    urlValues offset bs = .ok values ↔
      (∀ n ∈ values, n < 64) ∧ bs = values.map fun n => UInt8.ofNat (urlSymbol n).toNat := by
  induction bs generalizing offset values with
  | nil => cases values <;> simp [urlValues]
  | cons b rest ih =>
      rw [urlValues]
      cases hb : urlValue? b with
      | none =>
          refine iff_of_false (by simp) ?_
          rintro ⟨hlt, hbytes⟩
          cases values with
          | nil => cases hbytes
          | cons n values =>
              obtain ⟨rfl, -⟩ := List.cons.inj hbytes
              rw [urlValue?_urlSymbol (hlt n List.mem_cons_self)] at hb
              cases hb
      | some n =>
          obtain ⟨hn, rfl⟩ := eq_of_urlValue? hb
          simp only [map_eq_ok_iff]
          constructor
          · rintro ⟨found, hrest, rfl⟩
            obtain ⟨hlt, rfl⟩ := ih.mp hrest
            exact ⟨List.forall_mem_cons.mpr ⟨hn, hlt⟩, rfl⟩
          · rintro ⟨hlt, hbytes⟩
            cases values with
            | nil => cases hbytes
            | cons m values =>
                obtain ⟨hm, hlt⟩ := List.forall_mem_cons.mp hlt
                obtain ⟨hsymbol, hrest⟩ := List.cons.inj hbytes
                rw [hsymbol, urlValue?_urlSymbol hm, Option.some.injEq] at hb
                exact ⟨values, ih.mpr ⟨hlt, hrest⟩, by rw [hb]⟩

/-! ## Groups of three bytes -/

/-- Values that are no more and no other than the bits of some bytes. -/
structure FillsBytes (values : List ℕ) : Prop where
  lt : ∀ n ∈ values, n < 64
  length : values.length % 4 ≠ 1
  spare : spareBits values = 0

theorem spareBits_cons (a b c d : ℕ) (rest : List ℕ) :
    spareBits (a :: b :: c :: d :: rest) = spareBits rest := by
  have hlength : (a :: b :: c :: d :: rest).length % 4 = rest.length % 4 := by
    simp only [List.length_cons]
    omega
  cases rest with
  | nil => simp [spareBits]
  | cons e rest =>
      rw [spareBits, spareBits, hlength]
      simp only [List.getLast?_cons_cons]

theorem assemble_sextets (bs : Bytes) : assemble (sextets bs) = bs := by
  induction bs using sextets.induct with
  | case1 a b c rest ih =>
      have ha := a.toNat_lt
      have hb := b.toNat_lt
      have hc := c.toNat_lt
      have hfirst : (((a.toNat / 4 * 64 + (a.toNat % 4 * 16 + b.toNat / 16)) * 64 +
          (b.toNat % 16 * 4 + c.toNat / 64)) * 64 + c.toNat % 64) / 65536 = a.toNat := by omega
      have hsecond : (((a.toNat / 4 * 64 + (a.toNat % 4 * 16 + b.toNat / 16)) * 64 +
          (b.toNat % 16 * 4 + c.toNat / 64)) * 64 + c.toNat % 64) / 256 % 256 = b.toNat := by omega
      have hthird : (((a.toNat / 4 * 64 + (a.toNat % 4 * 16 + b.toNat / 16)) * 64 +
          (b.toNat % 16 * 4 + c.toNat / 64)) * 64 + c.toNat % 64) % 256 = c.toNat := by omega
      simp only [sextets, assemble, ih, hfirst, hsecond, hthird, UInt8.ofNat_toNat]
  | case2 a b =>
      have ha := a.toNat_lt
      have hb := b.toNat_lt
      have hfirst : ((a.toNat / 4 * 64 + (a.toNat % 4 * 16 + b.toNat / 16)) * 64 +
          b.toNat % 16 * 4) / 4 / 256 = a.toNat := by omega
      have hsecond : ((a.toNat / 4 * 64 + (a.toNat % 4 * 16 + b.toNat / 16)) * 64 +
          b.toNat % 16 * 4) / 4 % 256 = b.toNat := by omega
      simp only [sextets, assemble, hfirst, hsecond, UInt8.ofNat_toNat]
  | case3 a =>
      have ha := a.toNat_lt
      have hfirst : (a.toNat / 4 * 64 + a.toNat % 4 * 16) / 16 = a.toNat := by omega
      simp only [sextets, assemble, hfirst, UInt8.ofNat_toNat]
  | case4 => rfl

theorem fillsBytes_sextets (bs : Bytes) : FillsBytes (sextets bs) := by
  induction bs using sextets.induct with
  | case1 a b c rest ih =>
      have ha := a.toNat_lt
      have hb := b.toNat_lt
      have hc := c.toNat_lt
      refine ⟨?_, ?_, (spareBits_cons _ _ _ _ _).trans ih.spare⟩
      · simp only [sextets, List.forall_mem_cons]
        exact ⟨by omega, by omega, by omega, by omega, ih.lt⟩
      · have hlength := ih.length
        simp only [sextets, List.length_cons]
        omega
  | case2 a b =>
      have ha := a.toNat_lt
      have hb := b.toNat_lt
      refine ⟨?_, by simp [sextets], ?_⟩
      · simp only [sextets, List.forall_mem_cons]
        exact ⟨by omega, by omega, by omega, by simp⟩
      · show b.toNat % 16 * 4 % 4 = 0
        omega
  | case3 a =>
      have ha := a.toNat_lt
      refine ⟨?_, by simp [sextets], ?_⟩
      · simp only [sextets, List.forall_mem_cons]
        exact ⟨by omega, by omega, by simp⟩
      · show a.toNat % 4 * 16 % 16 = 0
        omega
  | case4 => exact ⟨by simp [sextets], by simp [sextets], rfl⟩

theorem toNat_ofNat_of_lt {n : ℕ} (h : n < 256) : (UInt8.ofNat n).toNat = n :=
  UInt8.toNat_ofNat_of_lt' h

theorem FillsBytes.sextets_assemble {values : List ℕ} (h : FillsBytes values) :
    sextets (assemble values) = values := by
  obtain ⟨hlt, hlength, hspare⟩ := h
  induction values using assemble.induct with
  | case1 a b c d rest ih =>
      simp only [List.forall_mem_cons] at hlt
      obtain ⟨ha, hb, hc, hd, hlt⟩ := hlt
      rw [spareBits_cons] at hspare
      simp only [List.length_cons] at hlength
      have hfirst : (((a * 64 + b) * 64 + c) * 64 + d) / 65536 < 256 := by omega
      have hsecond : (((a * 64 + b) * 64 + c) * 64 + d) / 256 % 256 < 256 := by omega
      have hthird : (((a * 64 + b) * 64 + c) * 64 + d) % 256 < 256 := by omega
      simp only [assemble, sextets, ih hlt (by omega) hspare, toNat_ofNat_of_lt hfirst,
        toNat_ofNat_of_lt hsecond, toNat_ofNat_of_lt hthird, List.cons.injEq, and_true]
      refine ⟨?_, ?_, ?_, ?_⟩ <;> omega
  | case2 a b c =>
      simp only [List.forall_mem_cons] at hlt
      obtain ⟨ha, hb, hc, -⟩ := hlt
      replace hspare : c % 4 = 0 := hspare
      have hfirst : ((a * 64 + b) * 64 + c) / 4 / 256 < 256 := by omega
      have hsecond : ((a * 64 + b) * 64 + c) / 4 % 256 < 256 := by omega
      simp only [assemble, sextets, toNat_ofNat_of_lt hfirst, toNat_ofNat_of_lt hsecond,
        List.cons.injEq, and_true]
      refine ⟨?_, ?_, ?_⟩ <;> omega
  | case3 a b =>
      simp only [List.forall_mem_cons] at hlt
      obtain ⟨ha, hb, -⟩ := hlt
      replace hspare : b % 16 = 0 := hspare
      have hfirst : (a * 64 + b) / 16 < 256 := by omega
      simp only [assemble, sextets, toNat_ofNat_of_lt hfirst, List.cons.injEq, and_true]
      refine ⟨?_, ?_⟩ <;> omega
  | case4 values hfour hthree htwo =>
      rcases values with _ | ⟨a, _ | ⟨b, _ | ⟨c, _ | ⟨d, rest⟩⟩⟩⟩
      · rfl
      · simp at hlength
      · exact absurd rfl (htwo a b)
      · exact absurd rfl (hthree a b c)
      · exact absurd rfl (hfour a b c d rest)

theorem fillsBytes_and_assemble_iff {values : List ℕ} {bs : Bytes} :
    FillsBytes values ∧ assemble values = bs ↔ values = sextets bs := by
  constructor
  · rintro ⟨h, rfl⟩
    exact h.sextets_assemble.symm
  · rintro rfl
    exact ⟨fillsBytes_sextets bs, assemble_sextets bs⟩

/-! ## Reading -/

theorem decodeUrl_eq_ok_iff_values {bs out : Bytes} :
    decodeUrl bs = .ok out ↔ ∃ values, urlValues 0 bs = .ok values ∧ bs.length % 4 ≠ 1 ∧
      spareBits values = 0 ∧ assemble values = out := by
  rw [decodeUrl]
  cases hlast : bs.getLast? with
  | none =>
      obtain rfl := List.getLast?_eq_none_iff.mp hlast
      simp [urlValues, spareBits, assemble]
  | some last =>
      simp only
      split
      · rename_i halone
        refine iff_of_false (by simp) ?_
        rintro ⟨values, -, hlength, -⟩
        exact hlength halone.1
      · cases hvalues : urlValues 0 bs with
        | error fault => simp
        | ok values =>
            simp only
            split
            · simp [*]
            · split
              · simp [*]
              · simp_all

/-- The text of some bytes is read as those bytes, and no other text is. -/
theorem decodeUrl_eq_ok_iff {s : String} {bs : Bytes} :
    decodeUrl (Utf8.encode s) = .ok bs ↔ s = encodeUrl bs := by
  have htext : ∀ values : List ℕ, (∀ n ∈ values, n < 64) →
      Utf8.encode (String.ofList (values.map urlSymbol)) =
        values.map fun n => UInt8.ofNat (urlSymbol n).toNat := by
    intro values hlt
    rw [Utf8.encode, String.toList_ofList, List.flatMap_map, List.map_eq_flatMap]
    exact List.flatMap_congr fun n hn => Header.utf8EncodeChar_of_lt (toNat_urlSymbol_lt (hlt n hn))
  rw [decodeUrl_eq_ok_iff_values]
  constructor
  · rintro ⟨values, hvalues, hlength, hspare, hassemble⟩
    obtain ⟨hlt, hbytes⟩ := urlValues_eq_ok_iff.mp hvalues
    rw [hbytes, List.length_map] at hlength
    have hsextets := fillsBytes_and_assemble_iff.mp ⟨⟨hlt, hlength, hspare⟩, hassemble⟩
    apply Utf8.encode_injective
    rw [hbytes, encodeUrl, ← hsextets, htext values hlt]
  · rintro rfl
    obtain ⟨hlt, hlength, hspare⟩ := fillsBytes_sextets bs
    refine ⟨sextets bs, urlValues_eq_ok_iff.mpr ⟨hlt, htext _ hlt⟩, ?_, hspare,
      assemble_sextets bs⟩
    rwa [encodeUrl, htext _ hlt, List.length_map]

/-- The second text has a bit too much. -/
example : encodeUrl [123, 125] = "e30" ∧
    decodeUrl (Utf8.encode "e31") = .error (.invalidLastSymbol 49 2) :=
  ⟨by decide, rfl⟩

end Base64

end Conduit
