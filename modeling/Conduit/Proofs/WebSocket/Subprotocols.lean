import Conduit.Pipeline.Resolver
import Conduit.Proofs.CommaLists
import Conduit.Proofs.WebSocket.Handshake

/-! # Choosing a subprotocol

A client offers subprotocols in lists, on one line or on several, and the value of a stage lists
those that it allows. The first one offered that is allowed is chosen, as the client writes it. What is
offered decides this, and not how the lists are written. -/

namespace Conduit

/-! ## Lines that can be read -/

namespace Headers

variable {h : Headers} {name : String} {lines : List String}

/-- All lines of that name are visible. -/
def VisibleAt (h : Headers) (name : String) : Prop :=
  ∀ value ∈ h.getAll name, ∀ b ∈ value, isVisible b = true

instance : Decidable (h.VisibleAt name) :=
  have (value : Bytes) : Decidable (∀ b ∈ value, isVisible b = true) :=
    List.decidableBAll (fun b => isVisible b = true) value
  List.decidableBAll (fun value => ∀ b ∈ value, isVisible b = true) (h.getAll name)

/-- The lines of that name read so, in order. -/
structure Reads (h : Headers) (name : String) (lines : List String) : Prop where
  getAll : h.getAll name = lines.map Utf8.encode
  visible : ∀ line ∈ lines, Header.Visible line

theorem exists_reads_of_values {values : List Bytes}
    (hvisible : ∀ value ∈ values, ∀ b ∈ value, isVisible b = true) :
    ∃ lines : List String, values = lines.map Utf8.encode ∧
      ∀ line ∈ lines, Header.Visible line := by
  induction values with
  | nil => exact ⟨[], rfl, by simp⟩
  | cons value values ih =>
      obtain ⟨lines, hlines, hrest⟩ := ih fun v hv => hvisible v (List.mem_cons_of_mem value hv)
      have hall : value.all isVisible = true :=
        List.all_eq_true.mpr (hvisible value List.mem_cons_self)
      obtain ⟨line, hline⟩ : ∃ line, Header.text? value = some line := by
        rw [Header.text?, if_pos hall]
        exact ⟨_, rfl⟩
      obtain ⟨hfirst, hvalue⟩ := Header.text?_eq_some_iff.mp hline
      refine ⟨line :: lines, by rw [List.map_cons, hvalue, hlines], ?_⟩
      intro l hl
      rcases List.mem_cons.mp hl with rfl | hl
      · exact hfirst
      · exact hrest l hl

theorem VisibleAt.exists_reads (hvisible : h.VisibleAt name) : ∃ lines, h.Reads name lines := by
  obtain ⟨lines, hlines, hall⟩ := exists_reads_of_values hvisible
  exact ⟨lines, hlines, hall⟩

theorem Reads.filterMap_text? (hreads : h.Reads name lines) :
    (h.getAll name).filterMap Header.text? = lines := by
  have hback : ∀ line ∈ lines, (Header.text? ∘ Utf8.encode) line = some line := by
    intro line hline
    exact Header.text?_of_visible (hreads.visible line hline)
  rw [hreads.getAll, List.filterMap_map, List.filterMap_congr hback, List.filterMap_some]

end Headers

namespace WebSocket

variable {h : Headers} {offered allowed : List String} {p : String}

/-! ## What is offered -/

def Offers (h : Headers) (offered : List String) : Prop :=
  ∃ lines, h.Reads protocolHeader lines ∧ Text.ListsAll lines offered

theorem Offers.requestedProtocols_eq (hoffers : Offers h offered) :
    requestedProtocols h = offered := by
  obtain ⟨lines, hreads, hlists⟩ := hoffers
  rw [requestedProtocols, hreads.filterMap_text?]
  exact Text.listsAll_iff.mp hlists

theorem exists_offers (hvisible : h.VisibleAt protocolHeader) : ∃ offered, Offers h offered := by
  obtain ⟨lines, hreads⟩ := hvisible.exists_reads
  exact ⟨_, lines, hreads, Text.listsAll_iff.mpr rfl⟩

/-! ## What is chosen -/

/-- The subprotocol is among those allowed, but for the case of its letters. -/
def Allowed (allowed : List String) (p : String) : Prop :=
  ∃ a ∈ allowed, Text.lower a = Text.lower p

theorem any_eqIgnoringCase_iff :
    allowed.any (Text.eqIgnoringCase · p) = true ↔ Allowed allowed p := by
  simp [Allowed, Text.eqIgnoringCase]

/-- The first one offered that is allowed, or none if none is. -/
inductive Negotiated (offered allowed : List String) : Option String → Prop
  | chosen {before after : List String} {p : String} (offer : offered = before ++ p :: after)
      (isAllowed : Allowed allowed p) (first : ∀ q ∈ before, ¬ Allowed allowed q) :
      Negotiated offered allowed (some p)
  | refused (noneAllowed : ∀ q ∈ offered, ¬ Allowed allowed q) : Negotiated offered allowed none

theorem Offers.negotiateProtocol_eq_iff (hoffers : Offers h offered) (answer : Option String) :
    negotiateProtocol h allowed = answer ↔ Negotiated offered allowed answer := by
  rw [negotiateProtocol, hoffers.requestedProtocols_eq]
  cases answer with
  | none =>
      rw [List.find?_eq_none]
      simp only [any_eqIgnoringCase_iff]
      constructor
      · exact .refused
      · intro hrefused
        cases hrefused with
        | refused hnone => exact hnone
  | some p =>
      rw [List.find?_eq_some_iff_append]
      simp only [any_eqIgnoringCase_iff, Bool.not_eq_true', ← Bool.not_eq_true]
      constructor
      · rintro ⟨hallowed, before, after, hoffer, hfirst⟩
        exact .chosen hoffer hallowed hfirst
      · intro hchosen
        cases hchosen with
        | @chosen before after _ hoffer hallowed hfirst =>
            exact ⟨hallowed, before, after, hoffer, hfirst⟩

/-! ## The stage's value -/

/-- What negotiation comes to between lines and the value of a stage. -/
structure Negotiation (h : Headers) (value : String) (offered allowed : List String) : Prop where
  offers : Offers h offered
  allows : Text.Lists value allowed
  answer : ∀ answer, negotiateProtocol h allowed = answer ↔ Negotiated offered allowed answer
  /-- Other lines that offer the same come to the same. -/
  alike : ∀ h', Offers h' offered → negotiateProtocol h' allowed = negotiateProtocol h allowed

/-- A stage for sessions allows what its value lists. From visible lines it takes the first of the
subprotocols offered that it allows, however they are spread over lines, and none exactly if it
allows none of them. -/
theorem exists_negotiation (hvisible : h.VisibleAt protocolHeader) (r : Registry)
    (o : ChainOptions) (value : String) :
    ∃ offered allowed, Resolver.resolveToken r o ⟨"ws_handle", value⟩ =
        .ok (some (.wsHandle allowed)) ∧ Negotiation h value offered allowed := by
  obtain ⟨offered, hoffers⟩ := exists_offers hvisible
  refine ⟨offered, Text.commaItems value, rfl, hoffers, Text.lists_commaItems value, ?_, ?_⟩
  · intro answer
    exact hoffers.negotiateProtocol_eq_iff answer
  · intro h' hoffers'
    rw [hoffers'.negotiateProtocol_eq_iff, ← hoffers.negotiateProtocol_eq_iff]

/-- Two lines that offer four subprotocols, one of them with nothing before the comma. -/
def chatOffers : Headers :=
  ⟨[(protocolHeader, Utf8.encode "chat.v3 ,\t, Chat.V2"),
    (protocolHeader, Utf8.encode ",json,chat.v1 ")]⟩

/-- One line that offers the same. -/
def chatOffersJoined : Headers :=
  ⟨[(protocolHeader, Utf8.encode "chat.v3,Chat.V2,  json ,,chat.v1")]⟩

/-- The second subprotocol is allowed in lower case, and so is the third. -/
theorem chatOffers_negotiation :
    chatOffers.VisibleAt protocolHeader ∧
    ∃ offered allowed, Resolver.resolveToken .empty .standard ⟨"ws_handle", " json,, chat.v2"⟩ =
        .ok (some (.wsHandle allowed)) ∧
      Negotiation chatOffers " json,, chat.v2" offered allowed ∧
      negotiateProtocol chatOffers allowed = some "Chat.V2" ∧
      negotiateProtocol chatOffersJoined allowed = some "Chat.V2" := by
  have hvisible : chatOffers.VisibleAt protocolHeader := by decide
  obtain ⟨offered, allowed, hstage, hnegotiation⟩ :=
    exists_negotiation hvisible .empty .standard " json,, chat.v2"
  have hallowed : allowed = ["json", "chat.v2"] := by
    rw [← hnegotiation.allows.commaItems_eq]
    decide
  have hchosen : negotiateProtocol chatOffers allowed = some "Chat.V2" := by
    rw [hallowed]
    decide
  have hoffered : offered = ["chat.v3", "Chat.V2", "json", "chat.v1"] := by
    rw [← hnegotiation.offers.requestedProtocols_eq]
    decide
  have hjoined : Offers chatOffersJoined offered := by
    refine ⟨["chat.v3,Chat.V2,  json ,,chat.v1"], ⟨rfl, by decide⟩, Text.listsAll_iff.mpr ?_⟩
    rw [hoffered]
    decide
  exact ⟨hvisible, offered, allowed, hstage, hnegotiation, hchosen,
    (hnegotiation.alike chatOffersJoined hjoined).trans hchosen⟩

end WebSocket

end Conduit
