import Conduit.Proofs.Pipeline.FrameLimit
import Conduit.Proofs.Server.BodyLimits

/-! # Frames and bodies

A frame goes through the same steps as a body of JSON. The two ways succeed with the same request
and fail for the same reason; what they tell apart is where the data came from. Only a size is told
of a body, wherever it comes from. -/

namespace Conduit

/-- The error of a frame for the error of a body with the same bytes. -/
def ExtractionError.ofFrame : ExtractionError → ExtractionError
  | missing .body what => missing .frame what
  | undecodable .body reason => undecodable .frame reason
  | e => e

namespace ExtractionError

@[simp]
theorem code_ofFrame (e : ExtractionError) : e.ofFrame.code = e.code := by
  rcases e with ⟨_ | _⟩ | ⟨_ | _⟩ | _ <;> rfl

@[simp]
theorem status_ofFrame (e : ExtractionError) : e.ofFrame.status = e.status := by
  rcases e with ⟨_ | _⟩ | ⟨_ | _⟩ | _ <;> rfl

end ExtractionError

namespace Contract

variable {contract : Contract} {bs : Bytes} {limit : ℕ} {x : Exchange} {e : ExtractionError}

theorem decodeJson_frame :
    contract.decodeJson bs limit .frame =
      (contract.decodeJson bs limit .body).mapError ExtractionError.ofFrame := by
  simp only [decodeJson]
  split
  · rfl
  · split
    · rfl
    · split <;> rfl

/-- Where the error of a body is told to have been; a frame's is told of the frame unless it is too
long. -/
theorem source_of_decodeJson_error (h : contract.decodeJson bs limit .body = .error e) :
    e.source = .body ∧ e.ofFrame.source = if limit < bs.length then .body else .frame := by
  rw [decodeJson] at h
  split at h
  · rename_i hlong
    cases h
    exact ⟨rfl, (if_pos hlong).symm⟩
  · rename_i hshort
    rw [if_neg hshort]
    split at h
    · cases h
      exact ⟨rfl, rfl⟩
    · split at h
      · cases h
      · cases h
        exact ⟨rfl, rfl⟩

end Contract

namespace Decoder

variable (d : Decoder) (contract : Contract) (x : Exchange) (f : Bytes)

/-- The query is selected, and it is not what the route declares. -/
def QueryFails : Prop := d.query = true ∧ ∃ e, contract.decodeQuery x = .error e

/-- Some bytes are read as a frame of a connection as they are read as the body of its request: both
succeed with one request, or both fail alike. Where the bytes are at fault, `told` is where a frame's
error came from. -/
inductive ReadsAlike (told : DataSource) : Prop
  | decoded (request) (hbody : d.decode contract { x with body := f } = .ok request)
      (hframe : d.decodeFrame contract x f = .ok request)
  | refused (e e') (hbody : d.decode contract { x with body := f } = .error e)
      (hframe : d.decodeFrame contract x f = .error e')
      (hcode : e'.code = e.code) (hstatus : e'.status = e.status)
      (hquery : d.QueryFails contract x → e.source = .query ∧ e'.source = .query)
      (hbytes : ¬ d.QueryFails contract x → e.source = .body ∧ e'.source = told)

/-- The ways of a frame and of a body, set side by side. -/
structure FrameReading : Prop where
  /-- They agree, but that a frame above the limit is told as a body. -/
  alike : d.ReadsAlike contract x f (if d.limit < f.length then .body else .frame)
  /-- So errors tell of the frame but for the size of one above the limit. -/
  told : d.ReadsAlike contract x f .frame ↔ f.length ≤ d.limit ∨ d.QueryFails contract x

variable {d contract x f} {told : DataSource} {e : ExtractionError}

theorem queryFails_of_source_error (h : source d.query (contract.decodeQuery x) = .error e) :
    d.QueryFails contract x ∧ e.source = .query := by
  obtain ⟨hselected, herror⟩ := of_source_error h
  obtain ⟨reason, rfl⟩ := Contract.exists_of_decodeQuery_error herror
  exact ⟨⟨hselected, _, herror⟩, rfl⟩

theorem not_queryFails_of_source_ok {query : Option Json}
    (h : source d.query (contract.decodeQuery x) = .ok query) : ¬ d.QueryFails contract x := by
  rintro ⟨hselected, e, herror⟩
  rw [source, if_pos hselected, herror] at h
  cases h

theorem decode_of_json (contract : Contract) (x : Exchange) (f : Bytes) (hjson : d.json = true)
    (hform : d.form = false) :
    d.decode contract { x with body := f } =
      (source d.query (contract.decodeQuery x)).bind fun query =>
        (contract.decodeJson f d.limit .body).map fun json => ⟨query, none, some json, x.params⟩ := by
  have hquery : contract.decodeQuery { x with body := f } = contract.decodeQuery x := rfl
  rw [decode, hjson, hform, hquery]
  cases source d.query (contract.decodeQuery x) with
  | error e => rfl
  | ok query => cases contract.decodeJson f d.limit .body <;> rfl

theorem decodeFrame_eq_bind (d : Decoder) (contract : Contract) (x : Exchange) (f : Bytes) :
    d.decodeFrame contract x f =
      (source d.query (contract.decodeQuery x)).bind fun query =>
        (contract.decodeJson f d.limit .frame).map fun json =>
          ⟨query, none, some json, x.params⟩ := by
  rw [decodeFrame]
  cases source d.query (contract.decodeQuery x) with
  | error e => rfl
  | ok query => cases contract.decodeJson f d.limit .frame <;> rfl

theorem readsAlike (hjson : d.json = true) (hform : d.form = false) :
    d.ReadsAlike contract x f (if d.limit < f.length then .body else .frame) := by
  have hbody := decode_of_json contract x f hjson hform
  have hframe := decodeFrame_eq_bind d contract x f
  rw [Contract.decodeJson_frame] at hframe
  cases hquery : source d.query (contract.decodeQuery x) with
  | error e =>
      rw [hquery] at hbody hframe
      obtain ⟨hfails, hsource⟩ := queryFails_of_source_error hquery
      exact .refused e e hbody hframe rfl rfl (fun _ => ⟨hsource, hsource⟩) (absurd hfails)
  | ok query =>
      have hfails := not_queryFails_of_source_ok hquery
      rw [hquery] at hbody hframe
      cases hbytes : contract.decodeJson f d.limit .body with
      | ok json =>
          rw [hbytes] at hbody hframe
          exact .decoded _ hbody hframe
      | error e =>
          rw [hbytes] at hbody hframe
          exact .refused e e.ofFrame hbody hframe e.code_ofFrame e.status_ofFrame
            (fun h => absurd h hfails) fun _ => Contract.source_of_decodeJson_error hbytes

theorem ReadsAlike.of_queryFails {told' : DataSource} (h : d.ReadsAlike contract x f told)
    (hfails : d.QueryFails contract x) : d.ReadsAlike contract x f told' := by
  cases h with
  | decoded request hbody hframe => exact .decoded request hbody hframe
  | refused e e' hbody hframe hcode hstatus hquery hbytes =>
      exact .refused e e' hbody hframe hcode hstatus hquery (absurd hfails)

theorem ReadsAlike.source_eq (h : d.ReadsAlike contract x f told)
    (hfails : ¬ d.QueryFails contract x) (herror : d.decodeFrame contract x f = .error e) :
    e.source = told := by
  cases h with
  | decoded request hbody hframe => cases herror.symm.trans hframe
  | refused e₁ e₂ hbody hframe hcode hstatus hquery hbytes =>
      cases herror.symm.trans hframe
      exact (hbytes hfails).2

/-- A decoder for JSON and no form reads frames as it reads bodies, whatever the bytes. -/
theorem frameReading (hjson : d.json = true) (hform : d.form = false) :
    d.FrameReading contract x f := by
  have halike : d.ReadsAlike contract x f _ := readsAlike hjson hform
  refine ⟨halike, ?_, ?_⟩
  · intro htold
    by_contra hnot
    obtain ⟨hlong, hfails⟩ := not_or.mp hnot
    rw [if_pos (Nat.not_le.mp hlong)] at halike
    obtain ⟨e, herror, -⟩ : ∃ e, d.decodeFrame contract x f = .error e ∧ _ :=
      decodeFrame_of_limit_lt (Nat.not_le.mp hlong)
    cases (htold.source_eq hfails herror).symm.trans (halike.source_eq hfails herror)
  · rintro (hshort | hfails)
    · rwa [if_neg (Nat.not_lt.mpr hshort)] at halike
    · exact halike.of_queryFails hfails

/-- A decoder for short documents. -/
def fourBytes : Decoder := ⟨false, false, true, 4⟩

theorem fourBytes_frameReading :
    fourBytes.json = true ∧ fourBytes.form = false ∧
      fourBytes.FrameReading (.ofShapes .any .any .any) .plainGet (Utf8.encode "12345") :=
  ⟨rfl, rfl, frameReading rfl rfl⟩

/-- A frame of five bytes is told as a body. -/
theorem fourBytes_not_readsAlike :
    ¬ fourBytes.ReadsAlike (.ofShapes .any .any .any) .plainGet (Utf8.encode "12345") .frame := by
  intro h
  have hfails : ¬ fourBytes.QueryFails (.ofShapes .any .any .any) .plainGet := by
    rintro ⟨hselected, -⟩
    cases hselected
  have herror : fourBytes.decodeFrame (.ofShapes .any .any .any) .plainGet (Utf8.encode "12345") =
      .error (.tooLarge 4 5) := rfl
  cases h.source_eq hfails herror

end Decoder

end Conduit
