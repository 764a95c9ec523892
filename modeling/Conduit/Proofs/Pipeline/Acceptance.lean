import Conduit.Proofs.Pipeline.Reply
import Conduit.Proofs.WebSocket.Handshake

/-! # Accepted upgrades

A chain of built-in stages hands out a session exactly if it has a stage for sessions and every
stage lets the request go on. Its response is the one that the last of these stages wrote: an open
session keeps the encoders from writing, and nothing else overwrites it. -/

namespace Conduit

open WebSocket (validateUpgrade negotiateProtocol switchingProtocols acceptKey key? acceptHeader
  protocolHeader)

def Handler.KeepsHeaders (handler : Handler) : Prop :=
  ∀ ctx request, (handler ctx request).1.exchange.headers = ctx.exchange.headers

/-! ## What stages do to an upgrade -/

namespace Stage

def IsBuiltin : Stage → Prop
  | custom _ => False
  | _ => True

def isSession : Stage → Bool
  | wsHandle _ => true
  | _ => false

variable {op : Operation} {now : Int} {ctx : Context} {stage : Stage}

theorem isSession_iff : stage.isSession = true ↔ ∃ protocols, stage = wsHandle protocols := by
  cases stage <;> simp [isSession]

theorem run_socket (hkeeps : op.handler.KeepsSocket) (hsession : stage.isSession = false) :
    (stage.run op now ctx).ctx.socket = ctx.socket := by
  by_cases hhandle : stage = handle
  · subst hhandle
    rcases run_handle_cases with hsame | ⟨request, result, hcall⟩
    · rw [hsame]
    · rw [hcall]
      exact hkeeps _ request
  · refine (run_frame hhandle).socket fun protocols hstage => ?_
    rw [hstage] at hsession
    cases hsession

/-- Of the exchange, built-in stages write the response only, and encoders do that where no session
is open. What a handler writes is its own affair. -/
theorem run_exchange (hbuiltin : stage.IsBuiltin) (hhandle : stage ≠ handle) :
    (stage.run op now ctx).ctx.exchange = ctx.exchange ∨
      (stage.isSession = true ∨ ctx.socket = none) ∧
        ∃ response, (stage.run op now ctx).ctx.exchange = ctx.exchange.setResponse response := by
  cases stage with
  | req d =>
      rw [run, runReq]
      split <;> exact .inl rfl
  | auth scheme =>
      rw [run, runAuth]
      split <;> exact .inl rfl
  | handle => exact absurd rfl hhandle
  | rsp encoder =>
      rw [run, runRsp]
      split
      · exact .inl rfl
      · rename_i hsocket
        split
        · exact .inl rfl
        · split
          · exact .inr ⟨.inr (Option.not_isSome_iff_eq_none.mp hsocket), _, rfl⟩
          · exact .inl rfl
  | wsHandle protocols =>
      simp only [run, runWsHandle]
      split
      · exact .inl rfl
      · exact .inr ⟨.inl rfl, _, rfl⟩
  | custom provider => exact hbuiltin.elim

theorem run_response (hbuiltin : stage.IsBuiltin) (hkeeps : op.handler.KeepsResponse)
    (hsession : stage.isSession = false) (hopen : ctx.socket ≠ none) :
    (stage.run op now ctx).ctx.exchange.response = ctx.exchange.response := by
  by_cases hhandle : stage = handle
  · subst hhandle
    rcases run_handle_cases with hsame | ⟨request, result, hcall⟩
    · rw [hsame]
    · rw [hcall]
      exact hkeeps _ request
  · rcases run_exchange hbuiltin hhandle with hsame | ⟨hwrites | hclosed, -⟩
    · rw [hsame]
    · rw [hsession] at hwrites
      cases hwrites
    · exact absurd hclosed hopen

theorem run_headers (hbuiltin : stage.IsBuiltin) (hkeeps : op.handler.KeepsHeaders) :
    (stage.run op now ctx).ctx.exchange.headers = ctx.exchange.headers := by
  by_cases hhandle : stage = handle
  · subst hhandle
    rcases run_handle_cases with hsame | ⟨request, result, hcall⟩
    · rw [hsame]
    · rw [hcall]
      exact hkeeps _ request
  · rcases run_exchange hbuiltin hhandle with hsame | ⟨-, response, hwritten⟩
    · rw [hsame]
    · rw [hwritten]
      rfl

/-- The stage for sessions lets only valid requests go on. It writes its response and notes the
subprotocol. -/
theorem run_wsHandle_of_proceed {protocols : List String}
    (hflow : ((wsHandle protocols).run op now ctx).flow = .proceed) :
    ∃ accept, validateUpgrade ctx.exchange.headers = .ok accept ∧
      ((wsHandle protocols).run op now ctx).ctx =
        (ctx.setResponse (switchingProtocols accept
          (negotiateProtocol ctx.exchange.headers protocols))).updateSocket fun s =>
            { s with
              accepted := true
              protocol := negotiateProtocol ctx.exchange.headers protocols } := by
  cases hvalid : validateUpgrade ctx.exchange.headers with
  | error fault =>
      simp only [run, runWsHandle, hvalid, Step.abort] at hflow
      cases hflow
  | ok accept =>
      refine ⟨accept, rfl, ?_⟩
      simp only [run, runWsHandle, hvalid, Step.proceed]

end Stage

namespace Chain

variable (c : Chain) (now : Int) (x : Exchange)

/-- The chain has built-in stages only, and its handler leaves the response and the state of the
socket to them. -/
structure Builtin : Prop where
  stages : ∀ stage ∈ c.stages, stage.IsBuiltin
  response : c.operation.handler.KeepsResponse
  socket : c.operation.handler.KeepsSocket

/-- What the stages before a position leave of an upgrade: the response and the subprotocol of the
last stage for sessions, if there is one. -/
inductive Opened (j : ℕ) (ctx : Context) : Prop
  | unopened (hnone : c.NoneBefore Stage.isSession j) (hsocket : ctx.socket = none)
  | opened {i protocols before accept s}
      (hlast : c.LastBefore Stage.isSession i j (.wsHandle protocols))
      (hbefore : c.contextAt now x i = some before)
      (hvalid : validateUpgrade before.exchange.headers = .ok accept)
      (hresponse : ctx.exchange.response = some (switchingProtocols accept
        (negotiateProtocol before.exchange.headers protocols)))
      (hsocket : ctx.socket = some s) (haccepted : s.accepted = true)
      (hprotocol : s.protocol = negotiateProtocol before.exchange.headers protocols)

variable {c now x} {i j k : ℕ} {ctx : Context} {stage : Stage}

theorem LastBefore.restrict {kind : Stage → Bool} (h : c.LastBefore kind i j stage) (hi : i < k)
    (hk : k ≤ j) : c.LastBefore kind i k stage :=
  ⟨hi, h.getElem, h.isKind, fun m him hmk => h.last m him (Nat.lt_of_lt_of_le hmk hk)⟩

theorem socket_of_contextAt (hkeeps : c.operation.handler.KeepsSocket)
    (hsessions : ∀ protocols, .wsHandle protocols ∉ c.stages) (hj : j ≤ c.stages.length)
    (hctx : c.contextAt now x j = some ctx) : ctx.socket = none := by
  refine contextAt_induction (P := fun ctx => ctx.socket = none) rfl ?_ hj hctx
  intro stage hstage before hbefore
  refine (Stage.run_socket hkeeps (Bool.eq_false_iff.mpr fun hsession => ?_)).trans hbefore
  obtain ⟨protocols, rfl⟩ := Stage.isSession_iff.mp hsession
  exact hsessions protocols hstage

theorem Opened.step (hbuiltin : c.Builtin) (hctx : c.contextAt now x j = some ctx)
    (hstage : c.stages[j]? = some stage)
    (hflow : (stage.run c.operation now ctx).flow = .proceed) (h : c.Opened now x j ctx) :
    c.Opened now x (j + 1) (stage.run c.operation now ctx).ctx := by
  cases hsession : stage.isSession with
  | true =>
      obtain ⟨protocols, rfl⟩ := Stage.isSession_iff.mp hsession
      obtain ⟨accept, hvalid, hafter⟩ := Stage.run_wsHandle_of_proceed hflow
      rw [hafter]
      exact .opened (lastBefore_succ hstage rfl) hctx hvalid rfl rfl rfl rfl
  | false =>
      have hsocket : (stage.run c.operation now ctx).ctx.socket = ctx.socket :=
        Stage.run_socket hbuiltin.socket hsession
      cases h with
      | unopened hnone hclosed =>
          exact .unopened (hnone.succ hstage hsession) (hsocket.trans hclosed)
      | opened hlast hbefore hvalid hresponse hopen haccepted hprotocol =>
          have hkept : (stage.run c.operation now ctx).ctx.exchange.response =
              ctx.exchange.response :=
            Stage.run_response (hbuiltin.stages stage (List.mem_of_getElem? hstage))
              hbuiltin.response hsession (by rw [hopen]; exact Option.some_ne_none _)
          exact .opened (hlast.succ hstage hsession) hbefore hvalid (hkept.trans hresponse)
            (hsocket.trans hopen) haccepted hprotocol

theorem opened_of_contextAt (hbuiltin : c.Builtin) (hj : j ≤ c.stages.length)
    (hctx : c.contextAt now x j = some ctx) : c.Opened now x j ctx := by
  induction j generalizing ctx with
  | zero =>
      rw [contextAt_zero, Option.some.injEq] at hctx
      subst hctx
      exact .unopened (by simp [NoneBefore]) rfl
  | succ j ih =>
      have hstage : c.stages[j]? = some c.stages[j] := List.getElem?_eq_getElem hj
      obtain ⟨before, hbefore, hflow, rfl⟩ := contextAt_of_contextAt_succ hstage hctx
      exact (ih (Nat.le_of_succ_le hj) hbefore).step hbuiltin hbefore hstage hflow

theorem headers_of_contextAt (hbuiltin : c.Builtin) (hkeeps : c.operation.handler.KeepsHeaders)
    (hj : j ≤ c.stages.length) (hctx : c.contextAt now x j = some ctx) :
    ctx.exchange.headers = x.headers :=
  contextAt_induction (P := fun ctx => ctx.exchange.headers = x.headers) rfl
    (fun stage hstage _ hbefore =>
      (Stage.run_headers (hbuiltin.stages stage hstage) hkeeps).trans hbefore) hj hctx

theorem response_of_lastBefore {protocols : List String} {before : Context} {accept : String}
    (hbuiltin : c.Builtin) (hlast : c.LastBefore Stage.isSession i c.length (.wsHandle protocols))
    (hbefore : c.contextAt now x i = some before)
    (hvalid : validateUpgrade before.exchange.headers = .ok accept) (hi : i < k)
    (hk : k ≤ c.length) (hctx : c.contextAt now x k = some ctx) :
    ctx.exchange.response = some (switchingProtocols accept
      (negotiateProtocol before.exchange.headers protocols)) := by
  have hlast' := hlast.restrict hi hk
  cases opened_of_contextAt hbuiltin hk hctx with
  | unopened hnone => exact absurd hlast' hnone.not_lastBefore
  | opened hlast'' hbefore' hvalid' hresponse =>
      obtain ⟨rfl, hstage⟩ := hlast'.unique hlast''
      obtain rfl := Stage.wsHandle.inj hstage
      rw [hbefore, Option.some.injEq] at hbefore'
      subst hbefore'
      rw [hvalid, Except.ok.injEq] at hvalid'
      rw [hresponse, hvalid']

/-! ## The reply to an upgrade -/

variable (c now x)

/-- What an accepted upgrade comes from: the last stage for sessions, which finds valid headers and
answers their key. -/
structure AcceptsUpgrade (i : ℕ) (protocols : List String) (before : Context) (key : String)
    (response : Response) (session : Context) : Prop where
  last : c.LastBefore Stage.isSession i c.length (.wsHandle protocols)
  reached : c.contextAt now x i = some before
  /-- They are those of the request, unless the handler replaces them. -/
  headers : c.operation.handler.KeepsHeaders → before.exchange.headers = x.headers
  holdsKey : key? before.exchange.headers = some key
  valid : validateUpgrade before.exchange.headers = .ok (acceptKey key)
  status : response.status = .switchingProtocols
  accept : response.headers.text? acceptHeader = some (acceptKey key)
  protocol : session.socketState.protocol = negotiateProtocol before.exchange.headers protocols
  /-- The session's subprotocol is told as it is, in one line, and no line tells of none. -/
  told : response.headers.text? protocolHeader = session.socketState.protocol
  lines : response.headers.getAll protocolHeader =
    session.socketState.protocol.toList.map Utf8.encode
  /-- No later stage replaces the response. -/
  stands : ∀ k, i < k → k ≤ c.length → ∀ ctx, c.contextAt now x k = some ctx →
    ctx.exchange.response = some response

/-- When a request is answered with an upgrade, and how. -/
structure UpgradeDetermined : Prop where
  upgraded_iff : (∃ response session, (c.run now x).reply = some (.upgrade response session)) ↔
    (∃ protocols, .wsHandle protocols ∈ c.stages) ∧ ∀ j < c.length, c.ContinuesAt now x j
  accepted : ∀ response session, (c.run now x).reply = some (.upgrade response session) →
    ∃ i protocols before key, c.AcceptsUpgrade now x i protocols before key response session

variable {c now x}

theorem upgrades_iff : c.upgrades = true ↔ ∃ protocols, .wsHandle protocols ∈ c.stages := by
  rw [upgrades, List.any_eq_true]
  constructor
  · rintro ⟨stage, hmem, hstage⟩
    cases stage with
    | wsHandle protocols => exact ⟨protocols, hmem⟩
    | _ => cases hstage
  · rintro ⟨protocols, hmem⟩
    exact ⟨_, hmem, rfl⟩

theorem finish_of_accepted {response : Response} (haccepted : ctx.socketState.accepted = true)
    (hupgrades : c.upgrades = true) (hresponse : ctx.exchange.response = some response) :
    c.finish ctx =
      .upgrade response { ctx with exchange := { ctx.exchange with response := none } } := by
  simp only [finish, Exchange.takeResponse, haccepted, hupgrades, Bool.and_self, if_true,
    hresponse, Option.getD_some]

/-- A run that comes to its end with a stage for sessions is answered with an upgrade. -/
theorem exists_acceptsUpgrade (hbuiltin : c.Builtin)
    (hsession : ∃ protocols, .wsHandle protocols ∈ c.stages)
    (hctx : c.contextAt now x c.length = some ctx) :
    ∃ response session, (c.run now x).reply = some (.upgrade response session) ∧
      ∃ i protocols before key, c.AcceptsUpgrade now x i protocols before key response session := by
  cases opened_of_contextAt hbuiltin (Nat.le_refl _) hctx with
  | unopened hnone =>
      obtain ⟨protocols, hmem⟩ := hsession
      obtain ⟨i, hi, hstage⟩ := List.getElem_of_mem hmem
      have hkind := hnone i hi _ ((List.getElem?_eq_getElem hi).trans (congrArg some hstage))
      cases hkind
  | @opened i protocols before accept s hlast hbefore hvalid hresponse hsocket haccepted
      hprotocol =>
      obtain ⟨key, hkey, rfl⟩ := WebSocket.exists_key_of_validateUpgrade hvalid
      have hstate : ctx.socketState = s := by rw [Context.socketState, hsocket, Option.getD_some]
      have hfinish := finish_of_accepted (hstate ▸ haccepted) (upgrades_iff.mpr hsession) hresponse
      have hreply := (reply_of_contextAt_length hctx).trans (congrArg some hfinish)
      have hvisible : ∀ p, negotiateProtocol before.exchange.headers protocols = some p →
          Header.Visible p := fun p => WebSocket.visible_of_negotiateProtocol
      refine ⟨_, _, hreply, i, protocols, before, key, hlast, hbefore, fun hkeeps => ?_, hkey,
        hvalid, rfl, ?_, ?_, ?_, ?_, fun k hi hk later hlater => ?_⟩
      · exact headers_of_contextAt hbuiltin hkeeps (Nat.le_of_lt hlast.lt) hbefore
      · exact WebSocket.switchingProtocols_accept (WebSocket.visible_acceptKey key)
      · exact hstate ▸ hprotocol
      · show _ = ctx.socketState.protocol
        rw [hstate, hprotocol]
        exact WebSocket.switchingProtocols_protocol hvisible
      · show _ = ctx.socketState.protocol.toList.map Utf8.encode
        rw [hstate, hprotocol]
        exact WebSocket.getAll_protocol hvisible
      · exact response_of_lastBefore hbuiltin hlast hbefore hvalid hi hk hlater

theorem exists_session_of_upgrade {response : Response} {session : Context}
    (hbuiltin : c.Builtin) (hreply : (c.run now x).reply = some (.upgrade response session)) :
    ∃ protocols, .wsHandle protocols ∈ c.stages := by
  obtain ⟨ctx, hctx, haccepted, -⟩ := exists_contextAt_of_upgrade hreply
  cases opened_of_contextAt hbuiltin (Nat.le_refl _) hctx with
  | unopened _ hsocket =>
      rw [Context.socketState, hsocket] at haccepted
      cases haccepted
  | opened hlast => exact ⟨_, List.mem_of_getElem? hlast.getElem⟩

/-- A chain of built-in stages replies to a request with an upgrade exactly if it has a stage for
sessions and no stage stops the request. The last stage for sessions decides what the reply says. -/
theorem upgradeDetermined (hbuiltin : c.Builtin) : c.UpgradeDetermined now x := by
  constructor
  · constructor
    · rintro ⟨response, session, hreply⟩
      exact ⟨exists_session_of_upgrade hbuiltin hreply,
        fun j hj => continuesAt_of_upgrade hreply hj⟩
    · rintro ⟨hsession, hcontinues⟩
      have hreached := (isSome_contextAt_iff (Nat.le_refl _)).mpr hcontinues
      obtain ⟨ctx, hctx⟩ := Option.isSome_iff_exists.mp hreached
      obtain ⟨response, session, hreply, -⟩ := exists_acceptsUpgrade hbuiltin hsession hctx
      exact ⟨response, session, hreply⟩
  · intro response session hreply
    have hsession := exists_session_of_upgrade hbuiltin hreply
    obtain ⟨ctx, hctx, -⟩ := contextAt_length_of_upgrade hreply
    obtain ⟨response', session', hreply', haccepts⟩ :=
      exists_acceptsUpgrade hbuiltin hsession hctx
    rw [hreply, Option.some.injEq, Reply.upgrade.injEq] at hreply'
    obtain ⟨rfl, rfl⟩ := hreply'
    exact haccepts

/-- A route with two stages for sessions, a handler between them and an encoder behind them. -/
def twiceUpgraded : Chain :=
  ⟨.empty, [.wsHandle ["chat.v1"], .req ⟨true, false, false, 0⟩, .handle, .wsHandle ["chat.v2"],
      .rsp .plainJson],
    ⟨.ofShapes .any .any .any, .ofResult fun _ _ => .ok (.value .null)⟩⟩

def chatRequest : Exchange :=
  { Exchange.plainGet with
    headers := ⟨[("connection", Utf8.encode "Upgrade"), ("upgrade", Utf8.encode "websocket"),
      ("sec-websocket-key", Utf8.encode "dGhlIHNhbXBsZSBub25jZQ=="),
      ("sec-websocket-version", Utf8.encode "13"),
      ("sec-websocket-protocol", Utf8.encode "chat.v1, chat.v2")]⟩ }

/-- The second of them decides what its reply says. -/
theorem twiceUpgraded_upgradeDetermined :
    twiceUpgraded.Builtin ∧ twiceUpgraded.UpgradeDetermined 0 chatRequest ∧
      ∃ response session, (twiceUpgraded.run 0 chatRequest).reply =
          some (.upgrade response session) ∧
        response.headers.text? acceptHeader = some "s3pPLMBiTxaQ9kYGzzhZRbK+xOo=" ∧
        session.socketState.protocol = some "chat.v2" := by
  have hbuiltin : twiceUpgraded.Builtin := by
    refine ⟨?_, fun _ _ => rfl, fun _ _ => rfl⟩
    simp [twiceUpgraded, Stage.IsBuiltin]
  exact ⟨hbuiltin, upgradeDetermined hbuiltin, _, _, rfl, by decide +kernel, by decide +kernel⟩

end Chain

end Conduit
