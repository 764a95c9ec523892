import Conduit.Proofs.CommaLists
import Conduit.Proofs.WebSocket.Handshake

/-! # A connection line spread over several

Lines of one name stand for one list, so that anything between a client and a server may spread a
line over several. Of the `Connection` lines only the first is read, and a request stays what it was
exactly if the first line that is put there names `upgrade` whenever the others do, or if it is not
the first `Connection` line of the request anyway. -/

namespace Conduit

/-! ## The first line of a name -/

namespace Headers

variable {name line : String} {front back lines : List (String × Bytes)}

theorem getAll_append :
    getAll ⟨front ++ back⟩ name = getAll ⟨front⟩ name ++ getAll ⟨back⟩ name := by
  simp [getAll]

theorem getAll_eq_nil_iff :
    getAll ⟨lines⟩ name = [] ↔ ∀ l ∈ lines, l.1 ≠ name := by
  simp [getAll, List.filter_eq_nil_iff]

theorem getAll_eq_nil_of_ne {other : String} (hne : other ≠ name) (parts : List String) :
    getAll ⟨parts.map fun part => (other, Utf8.encode part)⟩ name = [] := by
  apply getAll_eq_nil_iff.mpr
  intro l hl
  obtain ⟨part, -, rfl⟩ := List.mem_map.mp hl
  exact hne

theorem text?_append_of_mem (h : ∃ l ∈ front, l.1 = name) :
    text? ⟨front ++ back⟩ name = text? ⟨front⟩ name := by
  have hsome : getAll ⟨front⟩ name ≠ [] := by
    intro hnil
    obtain ⟨l, hl, hname⟩ := h
    exact getAll_eq_nil_iff.mp hnil l hl hname
  obtain ⟨value, values, hvalues⟩ := List.exists_cons_of_ne_nil hsome
  simp only [text?, get?, getAll_append, hvalues, List.cons_append, List.head?_cons]

theorem text?_append_cons (h : ¬ ∃ l ∈ front, l.1 = name) (hvisible : Header.Visible line) :
    text? ⟨front ++ (name, Utf8.encode line) :: back⟩ name = some line := by
  have hnone : getAll ⟨front⟩ name = [] := by
    apply getAll_eq_nil_iff.mpr
    intro l hl hname
    exact h ⟨l, hl, hname⟩
  have hfirst : getAll ⟨(name, Utf8.encode line) :: back⟩ name =
      Utf8.encode line :: getAll ⟨back⟩ name := by
    simp [getAll]
  rw [text?, get?, getAll_append, hnone, hfirst]
  exact Header.text?_of_visible hvisible

end Headers

namespace WebSocket

variable {h h' : Headers}

/-! ## What the connection line says -/

/-- One of the items is `upgrade`, in any case. -/
def NamesUpgrade (items : List String) : Prop := ∃ item ∈ items, Text.lower item = "upgrade"

theorem namesUpgrade_append {items more : List String} :
    NamesUpgrade (items ++ more) ↔ NamesUpgrade items ∨ NamesUpgrade more := by
  simp only [NamesUpgrade, List.mem_append, or_and_right, exists_or]

theorem hasConnectionUpgrade_of_text? {line : String} {items : List String}
    (hline : h.text? "connection" = some line) (hlists : Text.Lists line items) :
    hasConnectionUpgrade h = true ↔ NamesUpgrade items := by
  have hlower : Text.lower "upgrade" = "upgrade" := by decide
  simp only [hasConnectionUpgrade, hline, ← hlists.commaItems_eq, NamesUpgrade, Text.commaItems,
    List.any_eq_true, List.mem_filter, List.mem_map, Text.eqIgnoringCase, beq_iff_eq, hlower]
  constructor
  · rintro ⟨piece, hpiece, hitem⟩
    refine ⟨Text.trim piece, ⟨⟨piece, hpiece, rfl⟩, ?_⟩, hitem⟩
    simp only [ne_eq, decide_not, Bool.not_eq_true', decide_eq_false_iff_not]
    intro hempty
    rw [hempty] at hitem
    exact absurd hitem (by decide)
  · rintro ⟨item, ⟨⟨piece, hpiece, rfl⟩, -⟩, hitem⟩
    exact ⟨piece, hpiece, hitem⟩

/-! ## What validation reads besides -/

/-- The two requests differ in their connection lines only. -/
structure AlikeBesides (h h' : Headers) : Prop where
  upgrade : hasUpgradeWebSocket h' = hasUpgradeWebSocket h
  key : key? h' = key? h
  version : hasVersion13 h' = hasVersion13 h

theorem alikeBesides_of_getAll
    (hlines : ∀ name, name ≠ "connection" → h'.getAll name = h.getAll name) :
    AlikeBesides h h' := by
  have htext : ∀ name, name ≠ "connection" → h'.text? name = h.text? name := by
    intro name hname
    rw [Headers.text?, Headers.get?, hlines name hname]
    rfl
  refine ⟨?_, ?_, ?_⟩
  · rw [hasUpgradeWebSocket, htext "upgrade" (by decide)]
    rfl
  · rw [key?, htext keyHeader (by decide)]
    rfl
  · rw [hasVersion13, htext versionHeader (by decide)]
    rfl

/-- Everything but the connection line is as an upgrade needs it. -/
def AsksBesides (h : Headers) : Prop :=
  hasUpgradeWebSocket h = true ∧ (key? h).isSome = true ∧ hasVersion13 h = true

theorem validateUpgrade_of_no_connection (hconnection : hasConnectionUpgrade h = false) :
    validateUpgrade h = .error .noConnection := by
  rw [validateUpgrade, hconnection]
  rfl

theorem validateUpgrade_ne_noConnection (hconnection : hasConnectionUpgrade h = true) :
    validateUpgrade h ≠ .error .noConnection := by
  rw [validateUpgrade, hconnection]
  cases hasUpgradeWebSocket h with
  | false => simp
  | true =>
      cases key? h with
      | none => simp
      | some key => cases hasVersion13 h <;> simp

theorem AlikeBesides.validateUpgrade_eq_iff (halike : AlikeBesides h h') :
    validateUpgrade h' = validateUpgrade h ↔
      hasConnectionUpgrade h' = hasConnectionUpgrade h := by
  constructor
  · intro hsame
    cases hbefore : hasConnectionUpgrade h with
    | false =>
        by_contra hafter
        apply validateUpgrade_ne_noConnection (eq_true_of_ne_false hafter)
        rw [hsame, validateUpgrade_of_no_connection hbefore]
    | true =>
        by_contra hafter
        apply validateUpgrade_ne_noConnection hbefore
        rw [← hsame, validateUpgrade_of_no_connection (eq_false_of_ne_true hafter)]
  · intro hsame
    rw [validateUpgrade, validateUpgrade, hsame, halike.upgrade, halike.key, halike.version]

theorem AlikeBesides.isUpgradeRequest_eq_iff (halike : AlikeBesides h h') :
    isUpgradeRequest h' = isUpgradeRequest h ↔
      hasConnectionUpgrade h' = hasConnectionUpgrade h ∨ ¬ AsksBesides h := by
  rw [isUpgradeRequest, isUpgradeRequest, AsksBesides, halike.upgrade, halike.key,
    halike.version]
  cases hasConnectionUpgrade h <;> cases hasConnectionUpgrade h' <;>
    cases hasUpgradeWebSocket h <;> cases (key? h).isSome <;> cases hasVersion13 h <;> simp

/-! ## One line in place of several -/

def connectionLine (line : String) : String × Bytes := ("connection", Utf8.encode line)

/-- A request with a connection line, and the lines that are put in its place: they list the same
items in the same order. -/
structure Spread where
  front : List (String × Bytes)
  line : String
  first : String
  others : List String
  back : List (String × Bytes)
  firstItems : List String
  otherItems : List String
  visible_line : Header.Visible line
  visible_first : Header.Visible first
  visible_others : ∀ other ∈ others, Header.Visible other
  lists_line : Text.Lists line (firstItems ++ otherItems)
  lists_first : Text.Lists first firstItems
  lists_others : Text.ListsAll others otherItems

namespace Spread

variable (s : Spread)

def before : Headers := ⟨s.front ++ connectionLine s.line :: s.back⟩

def after : Headers :=
  ⟨s.front ++ connectionLine s.first :: (s.others.map connectionLine ++ s.back)⟩

/-- Nobody who reads the first connection line only can tell the two apart. -/
def Unseen : Prop :=
  (∃ l ∈ s.front, l.1 = "connection") ∨ (NamesUpgrade s.otherItems → NamesUpgrade s.firstItems)

theorem getAll_after {name : String} (hname : name ≠ "connection") :
    s.after.getAll name = s.before.getAll name := by
  have hparts : Headers.getAll ⟨connectionLine s.first :: s.others.map connectionLine⟩ name = [] :=
    Headers.getAll_eq_nil_of_ne (Ne.symm hname) (s.first :: s.others)
  have hline : Headers.getAll ⟨[connectionLine s.line]⟩ name = [] :=
    Headers.getAll_eq_nil_of_ne (Ne.symm hname) [s.line]
  rw [after, before, Headers.getAll_append, Headers.getAll_append,
    ← List.singleton_append (x := connectionLine s.line), Headers.getAll_append, hline,
    ← List.cons_append, Headers.getAll_append, hparts]

theorem alikeBesides : AlikeBesides s.before s.after := by
  apply alikeBesides_of_getAll
  intro name hname
  exact s.getAll_after hname

theorem hasConnectionUpgrade_eq_iff :
    hasConnectionUpgrade s.after = hasConnectionUpgrade s.before ↔ s.Unseen := by
  by_cases hfront : ∃ l ∈ s.front, l.1 = "connection"
  · refine iff_of_true ?_ (.inl hfront)
    rw [hasConnectionUpgrade, hasConnectionUpgrade, after, before,
      Headers.text?_append_of_mem hfront, Headers.text?_append_of_mem hfront]
  · have hbefore := hasConnectionUpgrade_of_text? (h := s.before)
      (Headers.text?_append_cons hfront s.visible_line) s.lists_line
    have hafter := hasConnectionUpgrade_of_text? (h := s.after)
      (Headers.text?_append_cons hfront s.visible_first) s.lists_first
    rw [Bool.eq_iff_iff, hbefore, hafter, namesUpgrade_append, Unseen, or_iff_right hfront]
    constructor
    · intro hsame hothers
      exact hsame.mpr (.inr hothers)
    · intro hothers
      exact ⟨.inl, fun hnames => hnames.elim id hothers⟩

/-- What becomes of a request when its connection line is spread. -/
structure Compared : Prop where
  validated_iff : validateUpgrade s.after = validateUpgrade s.before ↔ s.Unseen
  recognised_iff : isUpgradeRequest s.after = isUpgradeRequest s.before ↔
    s.Unseen ∨ ¬ AsksBesides s.before
  /-- If it does not stay what it was, it is taken for one without the line. -/
  missed : ¬ s.Unseen → validateUpgrade s.after = .error .noConnection ∧
    isUpgradeRequest s.after = false

/-- Validation comes to the same exactly if the first connection line names `upgrade` as before. For
a request that is an upgrade but for its connection line, so does recognising it. -/
theorem compared : s.Compared := by
  refine ⟨?_, ?_, ?_⟩
  · rw [s.alikeBesides.validateUpgrade_eq_iff, s.hasConnectionUpgrade_eq_iff]
  · rw [s.alikeBesides.isUpgradeRequest_eq_iff, s.hasConnectionUpgrade_eq_iff]
  · intro hseen
    have hfalse : hasConnectionUpgrade s.after = false := by
      by_contra htrue
      rw [Unseen, not_or, Classical.not_imp] at hseen
      obtain ⟨hfront, -, hfirst⟩ := hseen
      apply hfirst
      apply (hasConnectionUpgrade_of_text? (h := s.after)
        (Headers.text?_append_cons hfront s.visible_first) s.lists_first).mp
      exact eq_true_of_ne_false htrue
    exact ⟨validateUpgrade_of_no_connection hfalse, by rw [isUpgradeRequest, hfalse]; rfl⟩

/-- The lines of an upgrade request behind its connection line. -/
def upgradeLines : List (String × Bytes) :=
  [("upgrade", Utf8.encode "websocket"), (keyHeader, Utf8.encode "dGhlIHNhbXBsZSBub25jZQ=="),
    (versionHeader, Utf8.encode "13")]

/-- The first of the lines names `upgrade`. -/
def upgradeFirst : Spread where
  front := []
  line := "keep-alive\t, Upgrade,close"
  first := "keep-alive,,Upgrade"
  others := [" close"]
  back := upgradeLines
  firstItems := ["keep-alive", "Upgrade"]
  otherItems := ["close"]
  visible_line := by decide
  visible_first := by decide
  visible_others := by decide
  lists_line := Text.lists_iff.mpr (by decide)
  lists_first := Text.lists_iff.mpr (by decide)
  lists_others := Text.listsAll_iff.mpr (by decide)

/-- So the request stays what it was. -/
theorem upgradeFirst_compared :
    upgradeFirst.Unseen ∧
      validateUpgrade upgradeFirst.after = validateUpgrade upgradeFirst.before := by
  have hunseen : upgradeFirst.Unseen := .inr fun _ => ⟨"Upgrade", by decide, by decide⟩
  exact ⟨hunseen, upgradeFirst.compared.validated_iff.mpr hunseen⟩

/-- The second of the lines names `upgrade`, and the first does not. -/
def keepAliveFirst : Spread where
  front := []
  line := "keep-alive, Upgrade"
  first := "keep-alive"
  others := ["Upgrade"]
  back := upgradeLines
  firstItems := ["keep-alive"]
  otherItems := ["Upgrade"]
  visible_line := by decide
  visible_first := by decide
  visible_others := by decide
  lists_line := Text.lists_iff.mpr (by decide)
  lists_first := Text.lists_iff.mpr (by decide)
  lists_others := Text.listsAll_iff.mpr (by decide)

/-- So an upgrade request is taken for none. -/
theorem keepAliveFirst_missed :
    (isUpgradeRequest keepAliveFirst.before = true ∧
      validateUpgrade keepAliveFirst.before = .ok "s3pPLMBiTxaQ9kYGzzhZRbK+xOo=") ∧
    isUpgradeRequest keepAliveFirst.after = false ∧
      validateUpgrade keepAliveFirst.after = .error .noConnection := by
  decide +kernel

end Spread

end WebSocket

end Conduit
