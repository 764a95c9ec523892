import Conduit.Proofs.Pipeline.FrameLoop
import Conduit.Proofs.Pipeline.Indexing

/-! # The limit on frames

A chain with a decoder refuses every frame above the limit that it was built with. A chain without
one has nothing to keep that limit in: its sessions take any JSON up to the default limit. -/

namespace Conduit

/-- The limit that the sessions of a chain go by. -/
def Chain.frameLimit (c : Chain) (o : ChainOptions) : ℕ :=
  if c.indexer.req.isSome then o.maxBodySize else Contract.defaultLimit

namespace Contract

variable {contract : Contract} {bs : Bytes} {limit : ℕ} {source : DataSource} {value : Json}

theorem decodeJson_of_limit_lt (h : limit < bs.length) :
    contract.decodeJson bs limit source = .error (.tooLarge limit bs.length) := by
  rw [decodeJson, if_pos h]

theorem decodeJson_of_length_le (hlength : bs.length ≤ limit) (hne : bs ≠ [])
    (hjson : contract.json bs = .ok value) :
    contract.decodeJson bs limit source = .ok value := by
  rw [decodeJson, if_neg (Nat.not_lt.mpr hlength), if_neg (by simp [hne])]
  simp only [hjson]

theorem exists_of_decodeQuery_error {x : Exchange} {e : ExtractionError}
    (h : contract.decodeQuery x = .error e) : ∃ reason, e = .undecodable .query reason := by
  rw [decodeQuery] at h
  split at h
  · cases h
  · exact ⟨_, (Except.error.inj h).symm⟩

end Contract

/-- A frame is refused for its size, unless the query of the request that opened the connection is
refused before. -/
theorem Decoder.decodeFrame_of_limit_lt {d : Decoder} {contract : Contract} {x : Exchange}
    {frame : Bytes} (h : d.limit < frame.length) :
    ∃ e, d.decodeFrame contract x frame = .error e ∧
      (e = .tooLarge d.limit frame.length ∨ ∃ reason, e = .undecodable .query reason) := by
  rw [decodeFrame]
  cases hquery : source d.query (contract.decodeQuery x) with
  | ok query =>
      rw [Contract.decodeJson_of_limit_lt h]
      exact ⟨_, rfl, .inl rfl⟩
  | error e =>
      refine ⟨e, rfl, .inr ?_⟩
      rw [source] at hquery
      split at hquery
      · cases hdecode : contract.decodeQuery x with
        | ok value =>
            rw [hdecode] at hquery
            cases hquery
        | error fault =>
            rw [hdecode] at hquery
            cases hquery
            exact Contract.exists_of_decodeQuery_error hdecode
      · cases hquery

namespace Session

open WebSocket (TransportError Script)

/-- A frame is answered with an error frame and nothing is called for it. Once that is sent, the
session goes on to the next frame. -/
structure Refused (op : Operation) (limit : ℕ) (frames : List DataFrame)
    (sends : List (Option TransportError)) (rounds : List Round) (run : SessionRun Script) (i : ℕ)
    (r : Round) : Prop where
  calls : r.calls op = []
  reply : ∃ e, r.reply op = some (.ok (errorFrame e)) ∧
    (e = .tooLarge limit r.frame.bytes.length ∨ ∃ reason, e = .undecodable .query reason) ∧
    (sends[i]?.join = none → run.socket.stream.sent[i]? = some (errorFrame e))
  goesOn : sends[i]?.join = none → i + 1 < frames.length → i + 1 < rounds.length

/-- How far the frames of a session are limited. -/
structure FrameLimited (c : Chain) (o : ChainOptions) (frames : List DataFrame)
    (sends : List (Option TransportError)) (rounds : List Round) (run : SessionRun Script) :
    Prop where
  taken : rounds.map Round.frame = frames.take rounds.length
  calls : run.calls = rounds.flatMap (Round.calls c.operation)
  refused : ∀ i r, rounds[i]? = some r → c.frameLimit o < r.frame.bytes.length →
    Refused c.operation (c.frameLimit o) frames sends rounds run i r
  /-- Without a decoder the options count for nothing. -/
  unlimited : c.indexer.req = none → ∀ (i : ℕ) (r : Round) (value : Json), rounds[i]? = some r →
    r.frame.bytes ≠ [] → r.frame.bytes.length ≤ Contract.defaultLimit →
    c.operation.contract.json r.frame.bytes = .ok value →
    ∃ request, request.json = some value ∧ r.calls c.operation = [.handler request r.seen]

variable {ctx : Context}

theorem decodeFrame_of_limit_lt {spec : Spec} {reg : Registry} {o : ChainOptions} {c : Chain}
    {frame : Bytes} (hbuild : Chain.build spec op reg o = .ok c)
    (hindexer : ctx.indexer = c.indexer)
    (hlong : c.frameLimit o < frame.length) (contract : Contract) :
    ∃ e, decodeFrame contract ctx frame = .error e ∧
      (e = .tooLarge (c.frameLimit o) frame.length ∨ ∃ reason, e = .undecodable .query reason) := by
  rw [decodeFrame, hindexer]
  cases hreq : c.indexer.req with
  | some d =>
      have hlimit : c.frameLimit o = d.limit := by
        rw [Chain.frameLimit, hreq, Chain.limit_of_build hbuild (Chain.mem_of_indexer_req hreq)]
        rfl
      rw [hlimit] at hlong ⊢
      exact Decoder.decodeFrame_of_limit_lt hlong
  | none =>
      have hlimit : c.frameLimit o = Contract.defaultLimit := by
        rw [Chain.frameLimit, hreq]
        rfl
      rw [hlimit] at hlong ⊢
      simp only [Contract.decodeJson_of_limit_lt hlong]
      exact ⟨_, rfl, .inl rfl⟩

theorem decodeFrame_of_no_decoder {contract : Contract} {frame : Bytes} {value : Json}
    (hreq : ctx.indexer.req = none) (hlength : frame.length ≤ Contract.defaultLimit)
    (hne : frame ≠ []) (hjson : contract.json frame = .ok value) :
    decodeFrame contract ctx frame =
      .ok { Request.empty ctx.exchange.params with json := some value } := by
  rw [decodeFrame, hreq]
  simp only [Contract.decodeJson_of_length_le hlength hne hjson]
  rfl

/-- Every session of a chain that was built refuses the frames above its limit and goes on, whatever
its peer sends and whichever sends fail. That limit is the one of the options only if the chain has
a decoder. -/
theorem frameLimited_of_build {spec : Spec} {reg : Registry} {o : ChainOptions} {c : Chain}
    {now : Int} {x : Exchange} {response : Response}
    (hbuild : Chain.build spec op reg o = .ok c)
    (hkeeps : c.operation.handler.KeepsIndexer)
    (hupgrade : (c.run now x).reply = some (.upgrade response ctx)) (frames : List DataFrame)
    (ending : Ending) (sends : List (Option TransportError)) :
    ∃ rounds, FrameLimited c o frames sends rounds
      (play c.operation ctx frames ending sends) := by
  obtain ⟨rounds, texts, stop, last, hcourse⟩ := exists_course c.operation frames 0 ctx sends
  have hplayed : Played c.operation ctx frames ending rounds texts stop
      (play c.operation ctx frames ending sends) := hcourse.played
  have hindexer : ∀ r ∈ rounds, r.seen.indexer = c.indexer := fun r hr =>
    (hcourse.linked.indexer hkeeps r hr).trans (Chain.indexer_of_upgrade hkeeps hupgrade)
  refine ⟨rounds, hcourse.taken, hplayed.calls, fun i r hi hlong => ?_,
    fun hreq i r value hi hne hlength hjson => ?_⟩
  · obtain ⟨e, herror, hcause⟩ := decodeFrame_of_limit_lt hbuild
      (hindexer r (List.mem_of_getElem? hi)) hlong c.operation.contract
    have hdecoded : r.decoded c.operation = .error e := herror
    have hreply : r.reply c.operation = some (.ok (errorFrame e)) := by
      rw [Round.reply, hdecoded]
    refine ⟨by rw [Round.calls, hdecoded], ⟨e, hreply, hcause, fun hsend => ?_⟩, fun hsend => ?_⟩
    · rw [hplayed.sent]
      exact (hcourse.answered_of_reply hi hreply hsend).1
    · exact (hcourse.answered_of_reply hi hreply hsend).2
  · have hnone : r.seen.indexer.req = none := by
      rw [hindexer r (List.mem_of_getElem? hi), hreq]
    have hdecoded : r.decoded c.operation = .ok _ :=
      decodeFrame_of_no_decoder hnone hlength hne hjson
    refine ⟨{ Request.empty r.seen.exchange.params with json := some value }, rfl, ?_⟩
    rw [Round.calls, hdecoded]

/-- A route without a decoder that answers each frame with its size. -/
def sizeRoute : Chain :=
  ⟨.parse "ws_handle", [.wsHandle []],
    ⟨⟨fun s => .ok (.str s), fun s => .ok (.str s), fun bs => .ok (.nat bs.length)⟩,
      .ofResult fun _ request => .ok (.value (request.json.getD .null))⟩⟩

theorem sizeRoute_frameLimited :
    ∃ response ctx rounds,
      Chain.build (.parse "ws_handle") sizeRoute.operation .empty ⟨true, 4⟩ = .ok sizeRoute ∧
      sizeRoute.operation.handler.KeepsIndexer ∧
      (sizeRoute.run 0 upgradeRequest).reply = some (.upgrade response ctx) ∧
      FrameLimited sizeRoute ⟨true, 4⟩ [.text "12345"] [] rounds
        (play sizeRoute.operation ctx [.text "12345"] .ended []) := by
  have hbuild : Chain.build (.parse "ws_handle") sizeRoute.operation .empty ⟨true, 4⟩ =
      .ok sizeRoute := rfl
  have hkeeps : sizeRoute.operation.handler.KeepsIndexer := fun _ _ => rfl
  have hupgrade : ∃ response ctx,
      (sizeRoute.run 0 upgradeRequest).reply = some (.upgrade response ctx) := ⟨_, _, rfl⟩
  obtain ⟨response, ctx, hupgrade⟩ := hupgrade
  obtain ⟨rounds, hlimited⟩ :=
    frameLimited_of_build hbuild hkeeps hupgrade [.text "12345"] .ended []
  exact ⟨response, ctx, rounds, hbuild, hkeeps, hupgrade, hlimited⟩

/-- Built with a limit of four bytes, it gives a frame of five to its handler. -/
theorem sizeRoute_takes_longer_frame :
    Chain.build (.parse "ws_handle") sizeRoute.operation .empty ⟨true, 4⟩ = .ok sizeRoute ∧
      4 < (DataFrame.text "12345").bytes.length ∧
      ∃ response ctx request seen,
        (sizeRoute.run 0 upgradeRequest).reply = some (.upgrade response ctx) ∧
        (play sizeRoute.operation ctx [.text "12345"] .ended []).calls =
          [.handler request seen] ∧
        request.json = some (.nat 5) :=
  ⟨rfl, by decide, _, _, _, _, rfl, rfl, rfl⟩

end Session

end Conduit
