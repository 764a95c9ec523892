import Conduit.Proofs.Pipeline.Sent
import Conduit.Proofs.Server.Admission

/-! # Connections that are upgraded

The server decides from the head of a request whether it keeps the connection for an upgrade, and
the stage for sessions decides again whether it accepts one. They agree on every head, so nothing is
accepted that the server has not kept a connection for, as long as the stages leave the head of the
request alone. -/

namespace Conduit

open WebSocket (isUpgradeRequest validateUpgrade)

/-- The requests that are recognised are those that are valid. -/
theorem WebSocket.isUpgradeRequest_iff (h : Headers) :
    isUpgradeRequest h = true ↔ ∃ accept, validateUpgrade h = .ok accept := by
  rw [isUpgradeRequest, validateUpgrade]
  cases hasConnectionUpgrade h with
  | false => simp
  | true =>
      cases hasUpgradeWebSocket h with
      | false => simp
      | true =>
          cases key? h with
          | none => simp
          | some key => cases hasVersion13 h <;> simp

namespace Chain

variable {c : Chain} {now : Int} {x : Exchange} {response : Response} {session : Context}

theorem upgrades_of_upgrade (h : (c.run now x).reply = some (.upgrade response session)) :
    c.upgrades = true := by
  obtain ⟨ctx, -, hfinish⟩ := contextAt_length_of_upgrade h
  cases hupgrades : c.upgrades with
  | true => rfl
  | false =>
      simp only [finish, hupgrades, Bool.and_false, Bool.false_eq_true, if_false] at hfinish
      split at hfinish
      · cases hfinish
      · split at hfinish <;> cases hfinish

/-- A chain accepts an upgrade only for a request that is recognised as one. Every stage lets it go
on, and the stage for sessions does that for valid requests only. -/
theorem isUpgradeRequest_of_upgrade (hkeeps : c.KeepsSent)
    (h : (c.run now x).reply = some (.upgrade response session)) :
    isUpgradeRequest x.headers = true := by
  obtain ⟨protocols, hmem⟩ := upgrades_iff.mp (upgrades_of_upgrade h)
  obtain ⟨j, hj, hstage⟩ := List.getElem_of_mem hmem
  obtain ⟨step, hstep, hflow⟩ := continuesAt_of_upgrade h hj
  obtain ⟨ctx, stage, hctx, hstage', rfl⟩ := stage_of_stepAt hstep
  obtain rfl : stage = .wsHandle protocols := by
    rw [List.getElem?_eq_getElem hj, hstage, Option.some.injEq] at hstage'
    exact hstage'.symm
  obtain ⟨accept, hvalid, -⟩ := Stage.run_wsHandle_of_proceed hflow
  have hsent := sent_of_contextAt hkeeps (Nat.le_of_lt hj) hctx
  obtain ⟨-, -, hheaders, -⟩ := Exchange.parts_of_sent hsent
  rw [WebSocket.isUpgradeRequest_iff, ← hheaders]
  exact ⟨accept, hvalid⟩

end Chain

namespace Server

/-- Every upgrade that the chain accepts for this exchange finds the connection kept. -/
structure KeepsConnection (s : Server) (fresh : RequestId) (now : Int) (req : Inbound)
    (chain : Chain) (x : Exchange) : Prop where
  /-- The session begins, under the chain's own response. -/
  session : ∀ r session, (chain.run now x).reply = some (.upgrade r session) →
    isUpgradeRequest req.headers = true ∧
    s.handle fresh now req = ⟨(chain.run now x).calls, stamp r x.requestId, some (chain, session)⟩
  /-- So the server need not have looked. -/
  always : s.handle fresh now req = serve chain now true x

theorem serve_eq_serve_true {chain : Chain} {now : Int} {x : Exchange} {upgradable : Bool}
    (h : ∀ r session, (chain.run now x).reply = some (.upgrade r session) → upgradable = true) :
    serve chain now upgradable x = serve chain now true x := by
  cases hreply : (chain.run now x).reply with
  | none => simp only [serve, hreply]
  | some reply =>
      cases reply with
      | response r => simp only [serve, hreply]
      | upgrade r session => rw [h r session hreply]

/-- Recognising an upgrade request and validating it come to the same. A request that comes to a
chain whose stages keep what the client sent is therefore never refused for want of a connection. -/
theorem upgradesAgree (s : Server) (fresh : RequestId) (now : Int) (req : Inbound) :
    (∀ h, isUpgradeRequest h = true ↔ ∃ accept, validateUpgrade h = .ok accept) ∧
    ∀ chain x, s.Admits fresh req chain x → chain.KeepsSent →
      s.KeepsConnection fresh now req chain x := by
  refine ⟨WebSocket.isUpgradeRequest_iff, fun chain x hadmits hkeeps => ?_⟩
  have hheaders : x.headers = req.headers := congrArg Exchange.headers hadmits.exchange
  have hrecognised : ∀ r session, (chain.run now x).reply = some (.upgrade r session) →
      isUpgradeRequest req.headers = true := by
    intro r session hreply
    rw [← hheaders]
    exact Chain.isUpgradeRequest_of_upgrade hkeeps hreply
  refine ⟨fun r session hreply => ⟨hrecognised r session hreply, ?_⟩, ?_⟩
  · rw [hadmits.handle, hrecognised r session hreply]
    simp only [serve, hreply, if_true]
  · rw [hadmits.handle]
    exact serve_eq_serve_true hrecognised

/-- A server with one route, which has two stages for sessions. -/
def chatServer : Server :=
  ⟨(Routing.Router.empty.route ⟨"GET"⟩ "/" Chain.twiceUpgraded).1, 0⟩

def chatInbound : Inbound :=
  ⟨⟨"GET"⟩, Exchange.plainGet.uri, Chain.chatRequest.headers, .complete []⟩

/-- It begins a session for a request that offers subprotocols. -/
theorem chatServer_keepsConnection :
    chatServer.Admits Exchange.plainGet.requestId chatInbound Chain.twiceUpgraded
      Chain.chatRequest ∧
    Chain.twiceUpgraded.KeepsSent ∧
    ∃ r session, (Chain.twiceUpgraded.run 0 Chain.chatRequest).reply = some (.upgrade r session) ∧
      isUpgradeRequest chatInbound.headers = true ∧
      (chatServer.handle Exchange.plainGet.requestId 0 chatInbound).session =
        some (Chain.twiceUpgraded, session) := by
  have hadmits : chatServer.Admits Exchange.plainGet.requestId chatInbound Chain.twiceUpgraded
      Chain.chatRequest := ⟨rfl, rfl, Nat.le_refl 0, rfl⟩
  have hkeeps : Chain.twiceUpgraded.KeepsSent := by
    refine ⟨fun _ _ => rfl, fun provider hprovider => ?_⟩
    simp [Chain.twiceUpgraded] at hprovider
  have hreply : ∃ r session, (Chain.twiceUpgraded.run 0 Chain.chatRequest).reply =
      some (.upgrade r session) := ⟨_, _, rfl⟩
  obtain ⟨r, session, hreply⟩ := hreply
  obtain ⟨-, hkept⟩ := upgradesAgree chatServer Exchange.plainGet.requestId 0 chatInbound
  obtain ⟨hrecognised, hhandle⟩ := (hkept _ _ hadmits hkeeps).session r session hreply
  refine ⟨hadmits, hkeeps, r, session, hreply, hrecognised, ?_⟩
  rw [hhandle]

end Server

end Conduit
