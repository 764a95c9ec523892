import Conduit.Proofs.Text
import Conduit.WebSocket.Handshake

/-! # What the response to an upgrade says

A header line carries visible text and nothing is lost in it. Both the answer to a client's key and
a subprotocol in the client's spelling are such text, so the response that switches protocols says
them as they are. -/

namespace Conduit

/-! ## Visible text -/

/-- Visible ASCII, a blank or a tab. -/
def Header.IsVisibleCode (n : ℕ) : Prop := (0x20 ≤ n ∧ n < 0x7F) ∨ n = 0x09

instance : DecidablePred Header.IsVisibleCode :=
  fun n => inferInstanceAs (Decidable ((0x20 ≤ n ∧ n < 0x7F) ∨ n = 0x09))

def Header.Visible (s : String) : Prop := ∀ c ∈ s.toList, IsVisibleCode c.toNat

instance : DecidablePred Header.Visible :=
  fun s => List.decidableBAll (fun c : Char => Header.IsVisibleCode c.toNat) s.toList

theorem isVisible_iff {b : UInt8} : isVisible b = true ↔ Header.IsVisibleCode b.toNat := by
  simp only [isVisible, Header.IsVisibleCode, Bool.or_eq_true, Bool.and_eq_true, decide_eq_true_eq,
    UInt8.le_iff_toNat_le, UInt8.lt_iff_toNat_lt, ← UInt8.toNat_inj]
  rfl

namespace Header

variable {s : String} {c : Char}

theorem IsVisibleCode.lt {n : ℕ} (h : IsVisibleCode n) : n < 0x80 := by
  unfold IsVisibleCode at h
  omega

theorem toNat_ofNat_of_lt {n : ℕ} (h : n < 0x80) : (Char.ofNat n).toNat = n := by
  have hvalid : n.isValidChar := .inl (by omega)
  unfold Char.ofNat
  rw [dif_pos hvalid]
  rfl

theorem utf8EncodeChar_of_lt (h : c.toNat < 0x80) :
    String.utf8EncodeChar c = [UInt8.ofNat c.toNat] := by
  have hle : c.val.toNat ≤ 127 := Nat.le_of_lt_succ h
  simp only [String.utf8EncodeChar, hle, if_true]
  rfl

theorem encode_of_visible (h : Visible s) :
    Utf8.encode s = s.toList.map fun c => UInt8.ofNat c.toNat := by
  rw [Utf8.encode, List.map_eq_flatMap]
  exact List.flatMap_congr fun c hc => utf8EncodeChar_of_lt (h c hc).lt

theorem toNat_ofNat_of_visible {n : ℕ} (h : IsVisibleCode n) : (UInt8.ofNat n).toNat = n :=
  UInt8.toNat_ofNat_of_lt' (Nat.lt_trans h.lt (by decide))

theorem value?_of_visible (h : Visible s) : value? (Utf8.encode s) = some (Utf8.encode s) := by
  rw [value?, if_pos]
  rw [encode_of_visible h, List.all_map, List.all_eq_true]
  intro c hc
  have hcode := h c hc
  have hbyte : (UInt8.ofNat c.toNat).toNat = c.toNat := toNat_ofNat_of_visible hcode
  simp only [Function.comp_apply, Bool.or_eq_true, Bool.and_eq_true, decide_eq_true_eq,
    bne_iff_ne, ne_eq, UInt8.le_iff_toNat_le, ← UInt8.toNat_inj, hbyte]
  rcases hcode with ⟨hlow, hhigh⟩ | htab
  · exact .inl ⟨hlow, Nat.ne_of_lt hhigh⟩
  · exact .inr htab

theorem text?_of_visible (h : Visible s) : text? (Utf8.encode s) = some s := by
  have hcodes : ∀ c ∈ s.toList, (UInt8.ofNat c.toNat).toNat = c.toNat :=
    fun c hc => toNat_ofNat_of_visible (h c hc)
  have hall : (s.toList.map fun c => UInt8.ofNat c.toNat).all isVisible = true := by
    rw [List.all_map, List.all_eq_true]
    intro c hc
    rw [Function.comp_apply, isVisible_iff, hcodes c hc]
    exact h c hc
  have hback : (s.toList.map fun c => UInt8.ofNat c.toNat).map (fun b => Char.ofNat b.toNat) =
      s.toList := by
    rw [List.map_map]
    refine (List.map_congr_left fun c hc => ?_).trans (List.map_id _)
    rw [Function.comp_apply, hcodes c hc, Char.ofNat_toNat]
    rfl
  rw [encode_of_visible h, text?, if_pos hall, hback, String.ofList_toList]

theorem visible_of_text? {value : Bytes} (h : text? value = some s) : Visible s := by
  rw [text?] at h
  split at h
  · rename_i hall
    obtain rfl := Option.some.inj h
    intro c hc
    rw [String.toList_ofList] at hc
    obtain ⟨b, hb, rfl⟩ := List.mem_map.mp hc
    have hcode := isVisible_iff.mp (List.all_eq_true.mp hall b hb)
    rwa [toNat_ofNat_of_lt hcode.lt]
  · cases h

theorem text?_eq_some_iff {value : Bytes} :
    text? value = some s ↔ Visible s ∧ value = Utf8.encode s := by
  refine ⟨fun h => ⟨visible_of_text? h, ?_⟩, fun ⟨hvisible, hvalue⟩ => ?_⟩
  · rw [encode_of_visible (visible_of_text? h)]
    rw [text?] at h
    split at h
    · rename_i hall
      obtain rfl := Option.some.inj h
      rw [String.toList_ofList, List.map_map]
      refine ((List.map_congr_left fun b hb => ?_).trans (List.map_id _)).symm
      have hcode := isVisible_iff.mp (List.all_eq_true.mp hall b hb)
      rw [Function.comp_apply, toNat_ofNat_of_lt hcode.lt, UInt8.ofNat_toNat]
      rfl
    · cases h
  · rw [hvalue]
    exact text?_of_visible hvisible

end Header

/-! ## Lines of one name -/

namespace Headers

variable {h : Headers} {name other text : String} {value : Bytes}

theorem getAll_insert_self : (h.insert name value).getAll name = [value] := by
  simp [getAll, insert]

theorem getAll_insert_of_ne (hne : name ≠ other) :
    (h.insert name value).getAll other = h.getAll other := by
  have hkept : ∀ line ∈ h.lines,
      (decide (line.1 = other) && decide (line.1 ≠ name)) = decide (line.1 = other) := by
    intro line _
    by_cases hline : line.1 = other
    · simp [hline, hne.symm]
    · simp [hline]
  simp only [getAll, insert, List.filter_append, List.filter_filter, List.filter_congr hkept]
  simp [hne]

theorem getAll_insertText_self (hvisible : Header.Visible text) :
    (h.insertText name text).getAll name = [Utf8.encode text] := by
  rw [insertText, Header.value?_of_visible hvisible, getAll_insert_self]

theorem getAll_insertText_of_ne (hne : name ≠ other) :
    (h.insertText name text).getAll other = h.getAll other := by
  rw [insertText]
  split
  · exact getAll_insert_of_ne hne
  · rfl

theorem text?_of_getAll (hvisible : Header.Visible text)
    (hlines : h.getAll name = [Utf8.encode text]) : h.text? name = some text := by
  rw [text?, get?, hlines]
  exact Header.text?_of_visible hvisible

end Headers

/-! ## The answer to a key -/

namespace Base64

theorem visible_symbol (n : ℕ) : Header.IsVisibleCode (symbol n).toNat := by
  unfold symbol Header.IsVisibleCode
  split
  · rw [Header.toNat_ofNat_of_lt (by omega)]
    omega
  · split
    · rw [Header.toNat_ofNat_of_lt (by omega)]
      omega
    · split
      · rw [Header.toNat_ofNat_of_lt (by omega)]
        omega
      · split <;> decide

theorem visible_encodeList (bs : Bytes) :
    ∀ c ∈ encodeList bs, Header.IsVisibleCode c.toNat := by
  have hpad : Header.IsVisibleCode 61 := .inl (by decide)
  induction bs using encodeList.induct with
  | case1 => simp [encodeList]
  | case2 a => simp [encodeList, visible_symbol, hpad]
  | case3 a b => simp [encodeList, visible_symbol, hpad]
  | case4 a b c rest ih => simpa [encodeList, visible_symbol] using ih

theorem visible_encode (bs : Bytes) : Header.Visible (encode bs) := by
  intro c hc
  rw [encode, String.toList_ofList] at hc
  exact visible_encodeList bs c hc

end Base64

namespace WebSocket

variable {h : Headers} {accept key : String} {protocol : Option String}

theorem visible_acceptKey (key : String) : Header.Visible (acceptKey key) :=
  Base64.visible_encode _

/-- The answer of a request that is valid belongs to its key. -/
theorem exists_key_of_validateUpgrade (hvalid : validateUpgrade h = .ok accept) :
    ∃ key, key? h = some key ∧ accept = acceptKey key := by
  rw [validateUpgrade] at hvalid
  split at hvalid
  · cases hvalid
  · split at hvalid
    · cases hvalid
    · cases hkey : key? h with
      | none => simp [hkey] at hvalid
      | some key =>
          rw [hkey] at hvalid
          simp only at hvalid
          split at hvalid
          · exact ⟨key, rfl, (Except.ok.inj hvalid).symm⟩
          · cases hvalid

/-! ## The subprotocol -/

/-- What a client offers came in a line, so it fits into one. -/
theorem visible_of_mem_requestedProtocols {offered : String}
    (hoffered : offered ∈ requestedProtocols h) : Header.Visible offered := by
  rw [requestedProtocols, List.mem_flatMap] at hoffered
  obtain ⟨line, hline, hitem⟩ := hoffered
  obtain ⟨value, -, hvalue⟩ := List.mem_filterMap.mp hline
  intro c hc
  exact Header.visible_of_text? hvalue c (Text.mem_of_mem_commaItems hitem hc)

theorem visible_of_negotiateProtocol {allowed : List String} {p : String}
    (hp : negotiateProtocol h allowed = some p) : Header.Visible p :=
  visible_of_mem_requestedProtocols (List.mem_of_find?_eq_some hp)

/-! ## The response -/

theorem getAll_accept (haccept : Header.Visible accept) :
    (switchingProtocols accept protocol).headers.getAll acceptHeader = [Utf8.encode accept] := by
  cases protocol with
  | none => exact Headers.getAll_insertText_self haccept
  | some p =>
      have hne : protocolHeader ≠ acceptHeader := by decide
      exact (Headers.getAll_insertText_of_ne hne).trans (Headers.getAll_insertText_self haccept)

theorem switchingProtocols_accept (haccept : Header.Visible accept) :
    (switchingProtocols accept protocol).headers.text? acceptHeader = some accept :=
  Headers.text?_of_getAll haccept (getAll_accept haccept)

/-- There is one line for the subprotocol if there is a subprotocol, and none otherwise. -/
theorem getAll_protocol (hprotocol : ∀ p, protocol = some p → Header.Visible p) :
    (switchingProtocols accept protocol).headers.getAll protocolHeader =
      protocol.toList.map Utf8.encode := by
  cases protocol with
  | none =>
      have hkept : ∀ {h : Headers} {name text : String}, name ≠ protocolHeader →
          (h.insertText name text).getAll protocolHeader = h.getAll protocolHeader :=
        fun hne => Headers.getAll_insertText_of_ne hne
      refine (hkept (by decide)).trans ((hkept (by decide)).trans ((hkept (by decide)).trans ?_))
      rfl
  | some p => exact Headers.getAll_insertText_self (hprotocol p rfl)

theorem switchingProtocols_protocol (hprotocol : ∀ p, protocol = some p → Header.Visible p) :
    (switchingProtocols accept protocol).headers.text? protocolHeader = protocol := by
  have hlines : (switchingProtocols accept protocol).headers.getAll protocolHeader =
      protocol.toList.map Utf8.encode := getAll_protocol hprotocol
  cases protocol with
  | none => rw [Headers.text?, Headers.get?, hlines]; rfl
  | some p => exact Headers.text?_of_getAll (hprotocol p rfl) hlines

end WebSocket

end Conduit
