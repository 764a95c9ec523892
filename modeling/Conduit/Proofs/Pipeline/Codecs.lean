import Mathlib.Data.List.Basic
import Conduit.Pipeline.Decoder
import Conduit.Pipeline.Encoder
import Conduit.Proofs.Checks

/-! # Telling decoders and encoders apart

A decoded request shows which sources were selected for it, and a rendered response which wrapper it
has and, unless it is wrapped or an error, which media. -/

namespace Conduit

/-! ## Decoders -/

namespace Decoder

variable {contract : Contract} {x : Exchange} {d : Decoder} {request : Request}

theorem isSome_of_source {selected : Bool} {decode : Except ExtractionError Json}
    {value : Option Json} (h : source selected decode = .ok value) : value.isSome = selected := by
  cases selected with
  | false =>
      cases h
      rfl
  | true =>
      cases decode with
      | error e => cases h
      | ok found =>
          cases h
          rfl

theorem eq_of_decode (h : d.decode contract x = .ok request) :
    d = ⟨request.query.isSome, request.form.isSome, request.json.isSome, d.limit⟩ := by
  simp only [decode, bind_eq_ok_iff, pure_eq_ok_iff] at h
  obtain ⟨query, hquery, form, hform, json, hjson, rfl⟩ := h
  rw [isSome_of_source hquery, isSome_of_source hform, isSome_of_source hjson]

end Decoder

/-! ## What encoders write -/

theorem Utf8.encode_append (s t : String) : encode (s ++ t) = encode s ++ encode t := by
  rw [encode, String.toList_append, List.flatMap_append]
  rfl

theorem ApiError.bareBody_text (err : ApiError) : err.bareBody.text =
    "\x7b\"detail\":" ++ Json.quote err.message ++ ",\"error\":" ++ Json.quote err.key ++
      "\x7d" := by
  have hmembers : err.bareBody = .obj [("detail", .str err.message), ("error", .str err.key)] := rfl
  rw [hmembers]
  apply String.toList_injective
  simp [Json.text, Json.memberTexts, Json.quote, Json.escapeChar, Text.joinWith]

theorem ApiError.codedBody_text (err : ApiError) : err.codedBody.text =
    "\x7b\"code\":" ++ (Json.int err.code).text ++ ",\"message\":" ++ Json.quote err.message ++
      "\x7d" := by
  have hmembers : err.codedBody = .obj [("code", .int err.code), ("message", .str err.message)] :=
    rfl
  rw [hmembers]
  apply String.toList_injective
  simp [Json.text, Json.memberTexts, Json.quote, Json.escapeChar, Text.joinWith]

namespace Encoder

theorem generalBody_text (data : Json) : (generalBody data).text =
    "\x7b\"code\":0,\"data\":" ++ data.text ++ ",\"message\":\"\"\x7d" := by
  have hmembers : generalBody data =
      .obj [("code", .int 0), ("data", data), ("message", .str "")] := rfl
  have hzero : (Json.int 0).text = "0" := by decide
  rw [hmembers]
  apply String.toList_injective
  simp [Json.text, Json.memberTexts, Json.quote, Json.escapeChar, Text.joinWith, hzero]

/-- The bodies of an error start with different members. -/
theorem encode_bareBody_ne (err : ApiError) :
    Utf8.encode err.bareBody.text ≠ Utf8.encode err.codedBody.text := by
  have hbare : Utf8.encode "\x7b\"detail\":" = [123, 34, 100, 101, 116, 97, 105, 108, 34, 58] := by
    decide
  have hcoded : Utf8.encode "\x7b\"code\":" = [123, 34, 99, 111, 100, 101, 34, 58] := by decide
  rw [err.bareBody_text, err.codedBody_text]
  simp only [Utf8.encode_append, hbare, hcoded, List.append_assoc, List.cons_append, ne_eq,
    List.cons.injEq]
  rintro ⟨-, -, hthird, -⟩
  exact absurd hthird (by decide)

/-- A wrapped value takes more bytes than the value. -/
theorem encode_generalBody_ne (data : Json) :
    Utf8.encode (generalBody data).text ≠ Utf8.encode data.text := by
  intro h
  have hlength := congrArg List.length h
  have hopening : (Utf8.encode "\x7b\"code\":0,\"data\":").length = 17 := by decide
  rw [generalBody_text, Utf8.encode_append, Utf8.encode_append, List.length_append,
    List.length_append, hopening] at hlength
  omega

theorem media_of_contentType {m m' : Media}
    (h : Utf8.encode m.contentType = Utf8.encode m'.contentType) : m = m' := by
  cases m <;> cases m' <;> first | rfl | exact absurd h (by decide)

/-- What an encoder makes of a result, by its wrapper. -/
inductive Rendered (e : Encoder) (response : Response) : HandlerResult → Prop
  | value (j body) (hwrapper : e.wrapper = .none)
      (hresponse : response = .withBody .ok e.media.contentType (Utf8.encode body))
      (hbody : e.media = .json → body = j.text) : Rendered e response (.ok (.value j))
  | wrapped (j) (hwrapper : e.wrapper = .general)
      (hresponse : response =
        .withBody .ok Media.json.contentType (Utf8.encode (generalBody j).text)) :
      Rendered e response (.ok (.value j))
  | bare (err) (hwrapper : e.wrapper = .none)
      (hresponse : response =
        .withBody err.status Media.json.contentType (Utf8.encode err.bareBody.text)) :
      Rendered e response (.error err)
  | coded (err) (hwrapper : e.wrapper = .general)
      (hresponse : response =
        .withBody .ok Media.json.contentType (Utf8.encode err.codedBody.text)) :
      Rendered e response (.error err)

variable {e e' : Encoder} {result : HandlerResult} {response : Response}

theorem rendered_of_render (h : e.render result = .ok response) : e.Rendered response result := by
  obtain ⟨media, wrapper⟩ := e
  cases result with
  | error err =>
      cases wrapper with
      | none => exact .bare err rfl (Except.ok.inj h).symm
      | general => exact .coded err rfl (Except.ok.inj h).symm
  | ok payload =>
      cases payload with
      | unencodable reason => cases wrapper <;> cases h
      | value j =>
          cases wrapper with
          | general => exact .wrapped j rfl (Except.ok.inj h).symm
          | none =>
              cases media with
              | json => exact .value j j.text rfl (Except.ok.inj h).symm fun _ => rfl
              | html =>
                  cases j with
                  | str body => exact .value _ body rfl (Except.ok.inj h).symm nofun
                  | _ => cases h
              | text =>
                  cases j with
                  | str body => exact .value _ body rfl (Except.ok.inj h).symm nofun
                  | _ => cases h

/-- Two encoders tell a result alike: the media count only for a value that is not wrapped. -/
def AlikeOn (e' e : Encoder) (result : HandlerResult) : Prop :=
  e'.wrapper = e.wrapper ∧
    (e'.media = e.media ∨ e.wrapper = .general ∨ ∃ err, result = .error err)

theorem render_of_alikeOn (h : e'.AlikeOn e result) : e'.render result = e.render result := by
  obtain ⟨media, wrapper⟩ := e
  obtain ⟨media', wrapper'⟩ := e'
  obtain ⟨rfl, hmedia⟩ := h
  rcases hmedia with rfl | rfl | ⟨err, rfl⟩
  · rfl
  · rcases result with _ | _ | _ <;> rfl
  · cases wrapper' <;> rfl

theorem withBody_inj {status status' : Status} {type type' : String} {body body' : Bytes}
    (h : Response.withBody status type body = .withBody status' type' body') :
    Utf8.encode type = Utf8.encode type' ∧ body = body' := by
  simp only [Response.withBody, Headers.append, Headers.empty, List.nil_append,
    Response.mk.injEq, Headers.mk.injEq, List.cons.injEq, Prod.mk.injEq, true_and, and_true] at h
  exact h.2

theorem alikeOn_of_rendered (h : e.Rendered response result) (h' : e'.Rendered response result) :
    e'.AlikeOn e result := by
  -- The content type shows the media of a value, its body whether it is wrapped.
  cases h with
  | value j body hwrapper hresponse hbody =>
      cases h' with
      | value _ _ hwrapper' hresponse' =>
          obtain ⟨htype, -⟩ := withBody_inj (hresponse'.symm.trans hresponse)
          exact ⟨hwrapper'.trans hwrapper.symm, .inl (media_of_contentType htype)⟩
      | wrapped _ hwrapper' hresponse' =>
          obtain ⟨htype, hbody'⟩ := withBody_inj (hresponse'.symm.trans hresponse)
          rw [hbody (media_of_contentType htype).symm] at hbody'
          exact absurd hbody' (encode_generalBody_ne j)
  | wrapped j hwrapper hresponse =>
      cases h' with
      | value _ _ hwrapper' hresponse' hbody =>
          obtain ⟨htype, hbody'⟩ := withBody_inj (hresponse.symm.trans hresponse')
          rw [hbody (media_of_contentType htype).symm] at hbody'
          exact absurd hbody' (encode_generalBody_ne j)
      | wrapped _ hwrapper' => exact ⟨hwrapper'.trans hwrapper.symm, .inr (.inl hwrapper)⟩
  | bare err hwrapper hresponse =>
      refine ⟨?_, .inr (.inr ⟨err, rfl⟩)⟩
      cases h' with
      | bare _ hwrapper' => exact hwrapper'.trans hwrapper.symm
      | coded _ _ hresponse' =>
          exact absurd (withBody_inj (hresponse.symm.trans hresponse')).2 (encode_bareBody_ne err)
  | coded err hwrapper hresponse =>
      refine ⟨?_, .inr (.inr ⟨err, rfl⟩)⟩
      cases h' with
      | bare _ _ hresponse' =>
          exact absurd (withBody_inj (hresponse'.symm.trans hresponse)).2 (encode_bareBody_ne err)
      | coded _ hwrapper' => exact hwrapper'.trans hwrapper.symm

theorem render_eq_ok_iff (h : e.render result = .ok response) :
    e'.render result = .ok response ↔ e'.AlikeOn e result :=
  ⟨fun h' => alikeOn_of_rendered (rendered_of_render h) (rendered_of_render h'),
    fun halike => (render_of_alikeOn halike).trans h⟩

end Encoder

end Conduit
