import Conduit.Proofs.Json.Members
import Conduit.Pipeline.Encoder

/-! # What clients are told

An error is told as a JSON object. The server and the stages put it into an envelope with the id of
its request; a handler's own error that no wrapper is wanted around is told bare. Both are told here
by the members of the body, apart from the code that puts it together, and so is what an encoder
writes for a handler's result. -/

namespace Conduit

/-- What is told of an error. -/
structure Notice where
  status : ℕ
  category : String
  code : String
  message : String

namespace Response

/-- A response with this status, JSON for its body and no header line but the content type. -/
structure Carries (r : Response) (status : ℕ) (j : Json) : Prop where
  status : r.status.code = status
  headers : r.headers.lines = [("content-type", Utf8.encode "application/json")]
  body : r.body = Utf8.encode j.text

/-- The response tells an error in an envelope, under the id of its request. -/
def Tells (r : Response) (notice : Notice) (id : RequestId) : Prop :=
  ∃ error body : Json,
    error.HasMembers [("category", .str notice.category), ("code", .str notice.code),
      ("message", .str notice.message)] ∧
    body.HasMembers [("error", error), ("request_id", .str id.text)] ∧
    r.Carries notice.status body

/-- The response tells a handler's error bare. -/
def TellsBare (r : Response) (err : ApiError) : Prop :=
  ∃ body : Json, body.HasMembers [("error", .str err.key), ("detail", .str err.message)] ∧
    r.Carries err.status.code body

theorem carries_json (status : Status) (j : Json) : (json status j).Carries status.code j :=
  ⟨rfl, rfl, rfl⟩

theorem Tells.status_code {r : Response} {notice : Notice} {id : RequestId}
    (h : r.Tells notice id) : r.status.code = notice.status := by
  obtain ⟨error, body, -, -, hcarries⟩ := h
  exact hcarries.status

end Response

theorem ApiError.tellsBare_bareResponse (err : ApiError) : err.bareResponse.TellsBare err :=
  ⟨err.bareBody, Json.object_hasMembers (by simp), Response.carries_json _ _⟩

/-! ## Envelopes -/

namespace Envelope

/-- Whatever else an envelope says, its code is where a client looks for it. -/
theorem code_toJson (e : Envelope) :
    (e.toJson.get? "error").bind (Json.get? "code") = some (.str e.code) := by
  obtain ⟨category, code, message, details, id⟩ := e
  cases details <;> cases id <;> rfl

theorem tells_response {e : Envelope} {id : RequestId} (hdetails : e.details = none)
    (hid : e.requestId = some id.text) (status : Status) :
    (e.response status).Tells ⟨status.code, e.category.name, e.code, e.message⟩ id := by
  obtain ⟨category, code, message, details, requestId⟩ := e
  obtain rfl : details = none := hdetails
  obtain rfl : requestId = some id.text := hid
  exact ⟨_, _, Json.object_hasMembers (by simp), Json.object_hasMembers (by simp),
    Response.carries_json _ _⟩

end Envelope

namespace PipelineError

/-- What is told of the errors that stop decoders, authenticators, handlers and encoders. -/
inductive ToldAs : PipelineError → Notice → Prop
  | missing (source what) : ToldAs (.decode (.missing source what))
      ⟨400, "validation", "MISSING_INPUT", s!"decode error: missing {source.name}: {what}"⟩
  | undecodable (source reason) : ToldAs (.decode (.undecodable source reason))
      ⟨400, "validation", "DESERIALIZATION_FAILED",
        s!"decode error: failed to deserialize {source.name}: {reason}"⟩
  | tooLarge (limit size) : ToldAs (.decode (.tooLarge limit size))
      ⟨413, "validation", "PAYLOAD_TOO_LARGE",
        s!"decode error: payload too large: max {limit} bytes, got {size} bytes"⟩
  | rejected (fault) : ToldAs (.auth fault)
      ⟨401, "authentication", "AUTHENTICATION_ERROR", s!"authentication failed: {fault.message}"⟩
  | unready : ToldAs .missingRequest
      ⟨400, "validation", "MISSING_STAGE", "request stage missing"⟩
  | unhandled : ToldAs .missingHandle ⟨500, "internal", "MISSING_STAGE", "handle stage missing"⟩
  | unencodable (reason) : ToldAs (.encode reason)
      ⟨500, "internal", "ENCODE_ERROR", s!"encode error: {reason}"⟩

variable {e : PipelineError} {notice : Notice}

theorem ToldAs.eq (h : e.ToldAs notice) :
    e.details = none ∧ notice = ⟨e.status.code, e.category.name, e.code, e.message⟩ := by
  cases h with
  | missing source what => exact ⟨rfl, rfl⟩
  | undecodable source reason => exact ⟨rfl, rfl⟩
  | tooLarge limit size => exact ⟨rfl, rfl⟩
  | rejected fault => exact ⟨rfl, rfl⟩
  | unready => exact ⟨rfl, rfl⟩
  | unhandled => exact ⟨rfl, rfl⟩
  | unencodable reason => exact ⟨rfl, rfl⟩

theorem ToldAs.tells_response (h : e.ToldAs notice) (id : RequestId) :
    (e.response id).Tells notice id := by
  obtain ⟨hdetails, rfl⟩ := h.eq
  exact Envelope.tells_response (e := e.envelope (some id)) hdetails rfl e.status

theorem ToldAs.status_mem (h : e.ToldAs notice) : 400 ≤ notice.status ∧ notice.status < 600 := by
  cases h <;> simp

end PipelineError

/-! ## Results -/

/-- What an encoder writes for a result. JSON takes any value and other media take a text; the
wrapper tells a success with code zero, and an error with the handler's own code. -/
inductive Encoder.Renders : Encoder → HandlerResult → Response → Prop
  | json {j r} (hcarries : r.Carries 200 j) : Renders ⟨.json, .none⟩ (.ok (.value j)) r
  | html (body) : Renders ⟨.html, .none⟩ (.ok (.value (.str body)))
      ⟨⟨200⟩, ⟨[("content-type", Utf8.encode "text/html; charset=utf-8")]⟩, Utf8.encode body⟩
  | text (body) : Renders ⟨.text, .none⟩ (.ok (.value (.str body)))
      ⟨⟨200⟩, ⟨[("content-type", Utf8.encode "text/plain; charset=utf-8")]⟩, Utf8.encode body⟩
  | bare {media err r} (htells : r.TellsBare err) : Renders ⟨media, .none⟩ (.error err) r
  | wrapped {media data object r}
      (hmembers : object.HasMembers [("code", .int 0), ("message", .str ""), ("data", data)])
      (hcarries : r.Carries 200 object) : Renders ⟨media, .general⟩ (.ok (.value data)) r
  | coded {media err object r}
      (hmembers : object.HasMembers [("code", .int err.code), ("message", .str err.message)])
      (hcarries : r.Carries 200 object) : Renders ⟨media, .general⟩ (.error err) r

theorem Encoder.renders_of_render {encoder : Encoder} {result : HandlerResult} {r : Response}
    (h : encoder.render result = .ok r) : encoder.Renders result r := by
  obtain ⟨media, wrapper⟩ := encoder
  cases result with
  | error err =>
      cases wrapper with
      | none =>
          cases h
          exact .bare err.tellsBare_bareResponse
      | general =>
          cases h
          exact .coded (Json.object_hasMembers (by simp)) (Response.carries_json _ _)
  | ok payload =>
      cases payload with
      | unencodable reason => cases wrapper <;> cases h
      | value j =>
          cases wrapper with
          | general =>
              cases h
              exact .wrapped (Json.object_hasMembers (by simp)) (Response.carries_json _ _)
          | none =>
              cases media with
              | json =>
                  cases h
                  exact .json (Response.carries_json _ _)
              | html =>
                  cases j with
                  | str body =>
                      cases h
                      exact .html body
                  | _ => cases h
              | text =>
                  cases j with
                  | str body =>
                      cases h
                      exact .text body
                  | _ => cases h

end Conduit
