import Conduit.Proofs.Checks
import Conduit.Proofs.Pipeline.Acceptance
import Conduit.Proofs.Pipeline.FrameLoop
import Conduit.Proofs.Pipeline.Indexing

/-! # Errors in band

A route whose results are wrapped answers every request that comes through with status 200, and
every frame that decodes with text, whether the handler succeeds or fails. The code in the wrapper
tells which: zero for every success. It is the handler's own code for an error, so zero does not
tell a success unless the handler keeps zero for it. What always tells them apart is the data, which
only a success has. -/

namespace Conduit

/-! ## Wrapped results -/

def Encoder.wrappedJson : Encoder := ⟨.json, .general⟩

example : Encoder.parse "json@general" = .ok .wrappedJson := rfl

/-- An object tells a result by its code. -/
structure Json.TellsInBand (object : Json) (result : HandlerResult) : Prop where
  isObject : object.isObject = true
  code : ∃ n, object.get? "code" = some (.int n) ∧
    (n = 0 ↔ result.isOk = true ∨ ∃ err, result = .error err ∧ err.code = 0)
  data : (object.get? "data").isSome = result.isOk

namespace Encoder

theorem generalBody_tellsInBand (data : Json) :
    (generalBody data).TellsInBand (.ok (.value data)) := by
  have hmembers : generalBody data =
      .obj [("code", .int 0), ("data", data), ("message", .str "")] := rfl
  rw [hmembers]
  exact ⟨rfl, ⟨0, rfl, iff_of_true rfl (.inl rfl)⟩, rfl⟩

theorem codedBody_tellsInBand (err : ApiError) : err.codedBody.TellsInBand (.error err) := by
  have hmembers : err.codedBody = .obj [("code", .int err.code), ("message", .str err.message)] :=
    rfl
  rw [hmembers]
  refine ⟨rfl, ⟨err.code, rfl, ?_⟩, rfl⟩
  simp [Except.isOk, Except.toBool]

theorem encode_wrappedJson {result : HandlerResult} {encoded : Encoded}
    (h : wrappedJson.encode result = .ok encoded) :
    ∃ object : Json, encoded = ⟨.ok, "application/json", object.text⟩ ∧
      object.TellsInBand result := by
  rcases result with err | (data | reason)
  · cases h
    exact ⟨_, rfl, codedBody_tellsInBand err⟩
  · cases h
    exact ⟨_, rfl, generalBody_tellsInBand data⟩
  · cases h

theorem render_wrappedJson {result : HandlerResult} {response : Response}
    (h : wrappedJson.render result = .ok response) :
    ∃ object : Json, response = .withBody .ok "application/json" (Utf8.encode object.text) ∧
      object.TellsInBand result := by
  rw [render, map_eq_ok_iff] at h
  obtain ⟨encoded, hencode, rfl⟩ := h
  obtain ⟨object, rfl, htells⟩ := encode_wrappedJson hencode
  exact ⟨object, rfl, htells⟩

theorem encodeFrame_wrappedJson {result : HandlerResult} {text : String}
    (h : wrappedJson.encodeFrame result = .ok text) :
    ∃ object : Json, text = object.text ∧ object.TellsInBand result := by
  rw [encodeFrame, map_eq_ok_iff] at h
  obtain ⟨encoded, hencode, rfl⟩ := h
  obtain ⟨object, rfl, htells⟩ := encode_wrappedJson hencode
  exact ⟨object, rfl, htells⟩

end Encoder

namespace Chain

variable (c : Chain) (now : Int) (x : Exchange)

/-- The reply is an object with status 200 that stands for the last handler's result. -/
structure RepliesInBand (object : Json) (result : HandlerResult) : Prop where
  handled : c.Handled now x c.length (some result)
  reply : (c.run now x).reply = some (.response
    (.withBody .ok "application/json" (Utf8.encode object.text)))

/-- The chain has one kind of encoder, and it wraps results. -/
structure WrapsResults : Prop where
  mem : .rsp .wrappedJson ∈ c.stages
  only : ∀ e, .rsp e ∈ c.stages → e = .wrappedJson

variable {c now x} {ctx : Context}

/-- An encoder at the end has the last word about the last handler's result. -/
theorem exists_repliesInBand (hkeeps : c.operation.handler.KeepsSocket)
    (hsessions : ∀ protocols, .wsHandle protocols ∉ c.stages)
    (hlast : c.stages.getLast? = some (.rsp .wrappedJson)) (haborts : ¬ c.Aborts now x)
    (hstalls : ¬ c.Stalls now x) :
    ∃ object result, c.RepliesInBand now x object result ∧ object.TellsInBand result := by
  obtain ⟨front, hstages⟩ : ∃ front, c.stages = front ++ [.rsp .wrappedJson] :=
    List.getLast?_eq_some_iff.mp hlast
  have hlength : c.length = front.length + 1 := by simp [length, hstages]
  have hstage : c.stages[front.length]? = some (.rsp .wrappedJson) := by simp [hstages]
  obtain ⟨ctx, hctx⟩ := exists_contextAt_length_iff.mpr ⟨haborts, hstalls⟩
  have hhandled := handled_of_contextAt (Nat.le_refl _) hctx
  have hreply := reply_of_contextAt_length hctx
  rw [hlength] at hctx
  obtain ⟨before, hbefore, hflow, rfl⟩ := contextAt_of_contextAt_succ hstage hctx
  have hsocket : before.socket = none :=
    socket_of_contextAt hkeeps hsessions (by simp [hstages]) hbefore
  obtain ⟨result, response, hresult, hrender, hafter⟩ := Stage.run_rsp_of_proceed hsocket hflow
  obtain ⟨object, rfl, htells⟩ := Encoder.render_wrappedJson hrender
  rw [hafter] at hhandled hreply
  refine ⟨object, result, ⟨hresult ▸ hhandled, ?_⟩, htells⟩
  rw [hreply, finish_of_no_session hsessions]
  rfl

theorem WrapsResults.indexer (hwraps : c.WrapsResults) : c.indexer.rsp = some .wrappedJson := by
  obtain ⟨first, hfirst⟩ := exists_indexer_rsp hwraps.mem
  rw [hfirst, hwraps.only first (mem_of_indexer_rsp hfirst)]

end Chain

/-! ## Reply frames -/

namespace Session

open WebSocket (TransportError Script)

/-- Every text that a session sends is the reply to a frame, and it tells the handler's result in
band if the frame decoded. -/
structure RepliesInBand (op : Operation) (ctx : Context) (frames : List DataFrame)
    (rounds : List Round) (run : SessionRun Script) : Prop where
  taken : rounds.map Round.frame = frames.take rounds.length
  linked : Linked op 0 ctx rounds
  told : ∀ (i : ℕ) (text : String), run.socket.stream.sent[i]? = some text →
    ∃ r, rounds[i]? = some r ∧ ∀ request, r.decoded op = .ok request →
      ∃ (result : HandlerResult) (object : Json),
        (op.handler r.seen request).2 = .returned result ∧
        text = object.text ∧ object.TellsInBand result

variable {op : Operation} {r : Round} {request : Request} {text : String}

theorem Round.tellsInBand_of_reply (hindexer : (r.after op).indexer.rsp = some .wrappedJson)
    (hdecoded : r.decoded op = .ok request) (hreply : r.reply op = some (.ok text)) :
    ∃ (result : HandlerResult) (object : Json),
      (op.handler r.seen request).2 = .returned result ∧ text = object.text ∧
        object.TellsInBand result := by
  rw [Round.reply, hdecoded] at hreply
  simp only [hindexer, Option.getD_some] at hreply
  split at hreply
  · cases hreply
  · rename_i result hreturned
    obtain ⟨object, htext, htells⟩ := Encoder.encodeFrame_wrappedJson (Option.some.inj hreply)
    exact ⟨result, object, hreturned, htext, htells⟩

theorem Course.repliesInBand {c : Chain} {ctx last : Context} {frames : List DataFrame}
    {ending : Ending} {sends : List (Option TransportError)} {rounds : List Round}
    {texts : List String} {stop : Stop} (hkeeps : c.operation.handler.KeepsIndexer)
    (hwraps : c.WrapsResults) (hindexer : ctx.indexer = c.indexer)
    (h : Course c.operation 0 ctx frames sends rounds texts stop last) :
    RepliesInBand c.operation ctx frames rounds (play c.operation ctx frames ending sends) := by
  have hplayed : Played c.operation ctx frames ending rounds texts stop
      (play c.operation ctx frames ending sends) := h.played
  refine ⟨h.taken, h.linked, fun i text hsent => ?_⟩
  rw [hplayed.sent] at hsent
  -- The replies of the rounds start with the texts that were sent.
  have hreply : (rounds.map (Round.reply c.operation))[i]? = some (some (.ok text)) := by
    have hi : i < texts.length := (List.getElem?_eq_some_iff.mp hsent).1
    rw [h.replies, List.getElem?_append_left (by rwa [List.length_map]), List.getElem?_map, hsent]
    rfl
  rw [List.getElem?_map, Option.map_eq_some_iff] at hreply
  obtain ⟨r, hr, hreply⟩ := hreply
  have hafter : (r.after c.operation).indexer.rsp = some .wrappedJson := by
    rw [Round.indexer_after hkeeps r, h.linked.indexer hkeeps r (List.mem_of_getElem? hr), hindexer,
      hwraps.indexer]
  exact ⟨r, hr, fun request hdecoded => r.tellsInBand_of_reply hafter hdecoded hreply⟩

end Session

/-! ## Routes that wrap their results -/

namespace Chain

/-- Both for requests and for frames, the results of a chain are told by their code. -/
structure InBand (c : Chain) : Prop where
  /-- Without sessions, a request that nothing stops is answered with an object for the last
  result. -/
  requests : c.operation.handler.KeepsSocket → (∀ protocols, .wsHandle protocols ∉ c.stages) →
    c.stages.getLast? = some (.rsp .wrappedJson) → ∀ now x, ¬ c.Aborts now x → ¬ c.Stalls now x →
    ∃ object result, c.RepliesInBand now x object result ∧ object.TellsInBand result
  /-- In a session every frame that decodes is. -/
  frames : c.operation.handler.KeepsIndexer → ∀ now x response session,
    (c.run now x).reply = some (.upgrade response session) →
    ∀ (frames : List Session.DataFrame) (ending : Session.Ending)
      (sends : List (Option WebSocket.TransportError)), ∃ rounds,
        Session.RepliesInBand c.operation session frames rounds
          (Session.play c.operation session frames ending sends)

/-- A chain whose only encoder wraps results tells them in band. -/
theorem inBand_of_wrapsResults {c : Chain} (hwraps : c.WrapsResults) : c.InBand := by
  refine ⟨fun hsocket hsessions hlast now x haborts hstalls =>
    exists_repliesInBand hsocket hsessions hlast haborts hstalls,
    fun hkeeps now x response session hupgrade frames ending sends => ?_⟩
  obtain ⟨rounds, texts, stop, last, hcourse⟩ :=
    Session.exists_course c.operation frames 0 session sends
  exact ⟨rounds, hcourse.repliesInBand hkeeps hwraps (indexer_of_upgrade hkeeps hupgrade)⟩

/-- A route with an error of its own under code zero. -/
def zeroCodeRoute : Chain :=
  ⟨.parse "req|handle|rsp=json@general",
    [.req ⟨true, false, false, 4⟩, .handle, .rsp .wrappedJson],
    ⟨.ofShapes .any .any .any, .ofResult fun _ _ => .error ⟨"Item.GONE", 0, "sold out", ⟨410⟩⟩⟩⟩

/-- Nothing stops a request to it. -/
theorem zeroCodeRoute_inBand :
    zeroCodeRoute.WrapsResults ∧ zeroCodeRoute.InBand ∧
      zeroCodeRoute.operation.handler.KeepsIndexer ∧ ¬ zeroCodeRoute.Aborts 0 .plainGet ∧
      ¬ zeroCodeRoute.Stalls 0 .plainGet := by
  have hwraps : zeroCodeRoute.WrapsResults := by
    constructor <;> simp [zeroCodeRoute]
  exact ⟨hwraps, inBand_of_wrapsResults hwraps, fun _ _ => rfl,
    exists_contextAt_length_iff.mp ⟨_, rfl⟩⟩

/-- Its failure has the code of a success. -/
theorem zeroCodeRoute_fails_with_code_zero :
    zeroCodeRoute.WrapsResults ∧ zeroCodeRoute.operation.handler.KeepsSocket ∧
      zeroCodeRoute.operation.handler.KeepsResponse ∧
      (∀ protocols, .wsHandle protocols ∉ zeroCodeRoute.stages) ∧
      zeroCodeRoute.stages.getLast? = some (.rsp .wrappedJson) ∧
      ¬ zeroCodeRoute.Aborts 0 .plainGet ∧ ¬ zeroCodeRoute.Stalls 0 .plainGet ∧
      ∃ object err, zeroCodeRoute.RepliesInBand 0 .plainGet object (.error err) ∧
        object.get? "code" = some (.int 0) := by
  have hreached : zeroCodeRoute.contextAt 0 .plainGet zeroCodeRoute.length = some _ := rfl
  obtain ⟨haborts, hstalls⟩ := exists_contextAt_length_iff.mp ⟨_, hreached⟩
  refine ⟨by constructor <;> simp [zeroCodeRoute], fun _ _ => rfl, fun _ _ => rfl,
    by simp [zeroCodeRoute], rfl, haborts, hstalls, ?_⟩
  exact ⟨_, _, ⟨handled_of_contextAt (Nat.le_refl _) hreached, rfl⟩, rfl⟩

end Chain

end Conduit
