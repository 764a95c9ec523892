import Conduit.Proofs.Base64
import Conduit.Proofs.Checks
import Conduit.Proofs.Pipeline.AuthGate

/-! # Tokens with claims

The authenticator for tokens with claims reads one header line. What it accepts is told here by the
text that a client has to send, and it lets nothing else through: not a token with more segments or
fewer, nor one whose claims have another text or are over. -/

namespace Conduit

/-! ## Members that are read -/

namespace Json

variable {j : Json}

theorem str?_eq_some_iff {s : String} : j.str? = some s ↔ j = .str s := by
  cases j <;> simp [str?]

theorem int?_eq_some_iff {n : Int} : j.int? = some n ↔ j = .int n := by
  cases j with
  | num number => cases number <;> simp [int?, int]
  | _ => simp [int?, int]

theorem int64?_eq_some_iff {n : Int} :
    j.int64? = some n ↔
      j = .int n ∧ -9223372036854775808 ≤ n ∧ n ≤ 9223372036854775807 := by
  have hbounds : isInt64 n = true ↔ -9223372036854775808 ≤ n ∧ n ≤ 9223372036854775807 := by
    have hpower : Int.ofNat (twoTo 63) = 9223372036854775808 := rfl
    rw [isInt64, hpower, Bool.and_eq_true, decide_eq_true_eq, decide_eq_true_eq]
    omega
  rw [int64?, Option.bind_eq_bind, Option.bind_eq_some_iff, ← hbounds]
  constructor
  · rintro ⟨m, hint, hm⟩
    split at hm
    · obtain rfl := Option.some.inj hm
      exact ⟨int?_eq_some_iff.mp hint, by assumption⟩
    · cases hm
  · rintro ⟨hint, hn⟩
    exact ⟨n, int?_eq_some_iff.mpr hint, if_pos hn⟩

end Json

namespace AuthScheme

/-! ## What a client sends -/

/-- The first authorization line is visible text, with this token between blanks behind the
scheme. -/
inductive Presents (headers : Headers) : String → Prop
  | bearer {rest lines} (hvisible : Header.Visible ("Bearer " ++ rest))
      (hlines : headers.getAll authorizationHeader = Utf8.encode ("Bearer " ++ rest) :: lines) :
      Presents headers (Text.trim rest)

/-- The second of three segments is the text of an object's bytes. Marks at its end are for
padding and do not count. -/
inductive Encloses : String → Json → Prop
  | segments {front middle back bytes members} (hfront : '.' ∉ front.toList)
      (hmiddle : '.' ∉ middle.toList) (hback : '.' ∉ back.toList)
      (hbytes : Text.trimEndOf '=' middle = Base64.encodeUrl bytes)
      (hobject : Json.parse bytes = .ok (.obj members)) :
      Encloses (front ++ "." ++ middle ++ "." ++ back) (.obj members)

/-- Claims with an expiry have a timestamp of 64 bits there, which lies behind `now`. -/
def LastsBeyond (now : Int) (claims : Json) : Prop :=
  ∀ expiry, claims.get? "exp" = some expiry →
    ∃ n, expiry = .int n ∧ -9223372036854775808 ≤ n ∧ n ≤ 9223372036854775807 ∧ now < n

/-- A request brings a token for this identity. -/
structure Admits (now : Int) (x : Exchange) (identity : AuthResult) : Prop where
  token : ∃ token, Presents x.headers token ∧ Encloses token identity.claims
  lasts : LastsBeyond now identity.claims
  scheme : identity.scheme = "jwt"
  subject : ∀ s, identity.subject = some s ↔ identity.claims.get? "sub" = some (.str s)

/-! ## What is read of it -/

variable {now : Int} {x : Exchange} {claims : Json} {identity : AuthResult}

theorem bearerToken_eq_ok_iff {header : Option String} {token : String} :
    bearerToken header = .ok token ↔
      ∃ rest, header = some ("Bearer " ++ rest) ∧ Text.trim rest = token ∧ token ≠ "" := by
  cases header with
  | none => simp [bearerToken]
  | some value =>
      simp only [bearerToken, Option.some.injEq]
      cases hstrip : Text.stripLead "Bearer " value with
      | none =>
          refine iff_of_false (by simp) ?_
          rintro ⟨rest, hvalue, -⟩
          rw [Text.stripLead_eq_some_iff.mpr hvalue] at hstrip
          cases hstrip
      | some rest =>
          obtain rfl := Text.stripLead_eq_some_iff.mp hstrip
          simp only [String.append_right_inj]
          by_cases hempty : Text.trim rest = ""
          · simp +contextual [hempty, eq_comm]
          · simp +contextual [hempty, eq_comm]

theorem header?_eq_some_iff {text : String} :
    x.header? authorizationHeader = some text ↔ Header.Visible text ∧
      ∃ lines, x.headers.getAll authorizationHeader = Utf8.encode text :: lines := by
  have hlower : Text.lower authorizationHeader = authorizationHeader := by decide
  rw [Exchange.header?, hlower, Headers.text?, Headers.get?]
  cases hlines : x.headers.getAll authorizationHeader with
  | nil => simp
  | cons value lines => simp [Header.text?_eq_some_iff]

/-- A token is presented as it is read, unless nothing is left of it. -/
theorem presents_iff {token : String} (hne : token ≠ "") :
    Presents x.headers token ↔ bearerToken (x.header? authorizationHeader) = .ok token := by
  rw [bearerToken_eq_ok_iff]
  constructor
  · rintro ⟨hvisible, hlines⟩
    exact ⟨_, header?_eq_some_iff.mpr ⟨hvisible, _, hlines⟩, rfl, hne⟩
  · rintro ⟨rest, hheader, rfl, -⟩
    obtain ⟨hvisible, lines, hlines⟩ := header?_eq_some_iff.mp hheader
    exact .bearer hvisible hlines

theorem Encloses.ne_empty {token : String} (h : Encloses token claims) : token ≠ "" := by
  cases h
  simp

theorem joinWith_segments {front middle back : String} :
    Text.joinWith (String.singleton '.') [front, middle, back] =
      front ++ "." ++ middle ++ "." ++ back := by
  simp only [Text.joinWith, String.intercalate_cons_cons, String.intercalate_singleton,
    String.append_assoc]
  rfl

theorem decodeClaims_eq_ok_iff {token : String} :
    decodeClaims token = .ok claims ↔ Encloses token claims := by
  constructor
  · intro h
    rw [decodeClaims] at h
    split at h
    · rename_i front middle back hsegments
      obtain ⟨-, hdots, rfl⟩ := Text.splitAt_eq_iff.mp hsegments
      simp only [List.forall_mem_cons] at hdots
      obtain ⟨hfront, hmiddle, hback, -⟩ := hdots
      split at h
      · cases h
      · rename_i bytes hbytes
        split at h
        · cases h
        · rename_i hobject
          split at h
          · rename_i hkind
            cases h
            cases claims with
            | obj members =>
                have hencloses := Encloses.segments hfront hmiddle hback
                  (Base64.decodeUrl_eq_ok_iff.mp hbytes) hobject
                rwa [← joinWith_segments] at hencloses
            | _ => cases hkind
          · cases h
    · cases h
  · rintro ⟨hfront, hmiddle, hback, hbytes, hobject⟩
    rename_i front middle back bytes members
    have hsegments : Text.splitAt '.' (front ++ "." ++ middle ++ "." ++ back) =
        [front, middle, back] := by
      refine Text.splitAt_eq_iff.mpr ⟨by simp, ?_, ?_⟩
      · simp [hfront, hmiddle, hback]
      · exact joinWith_segments.symm
    simp only [decodeClaims, hsegments, Base64.decodeUrl_eq_ok_iff.mpr hbytes, hobject,
      Json.isObject, if_true]

theorem checkExpiry_eq_ok_iff : checkExpiry now claims = .ok () ↔ LastsBeyond now claims := by
  rw [checkExpiry, LastsBeyond]
  cases claims.get? "exp" with
  | none => simp
  | some expiry =>
      simp only [Option.some.injEq, forall_eq']
      cases hint : expiry.int64? with
      | none =>
          refine iff_of_false (by simp) ?_
          rintro ⟨n, hexpiry, hlow, hhigh, -⟩
          rw [Json.int64?_eq_some_iff.mpr ⟨hexpiry, hlow, hhigh⟩] at hint
          cases hint
      | some n =>
          obtain ⟨rfl, hlow, hhigh⟩ := Json.int64?_eq_some_iff.mp hint
          simp only
          constructor
          · intro h
            split at h
            · cases h
            · rename_i hnow
              exact ⟨n, rfl, hlow, hhigh, Int.not_le.mp hnow⟩
          · rintro ⟨m, hm, -, -, hnow⟩
            obtain rfl : n = m := by simpa [Json.int] using hm
            exact if_neg (Int.not_le.mpr hnow)

/-- What is accepted is what a client may send, and the identity is told by the claims. -/
theorem authenticate_jwt_eq_ok_iff :
    jwt.authenticate now x = .ok identity ↔ Admits now x identity := by
  have hsubject : ∀ claims : Json, ∀ s,
      (claims.get? "sub").bind Json.str? = some s ↔ claims.get? "sub" = some (.str s) := by
    intro claims s
    simp [Option.bind_eq_some_iff, Json.str?_eq_some_iff]
  simp only [authenticate, bind_eq_ok_iff, pure_eq_ok_iff]
  constructor
  · rintro ⟨token, htoken, claims, hclaims, ⟨⟩, hexpiry, rfl⟩
    have hencloses := decodeClaims_eq_ok_iff.mp hclaims
    exact ⟨⟨token, (presents_iff hencloses.ne_empty).mpr htoken, hencloses⟩,
      checkExpiry_eq_ok_iff.mp hexpiry, rfl, hsubject claims⟩
  · rintro ⟨⟨token, hpresents, hencloses⟩, hlasts, hscheme, hidentity⟩
    obtain ⟨scheme, subject, claims⟩ := identity
    obtain rfl : scheme = "jwt" := hscheme
    have hsub : (claims.get? "sub").bind Json.str? = subject :=
      Option.ext fun s => (hsubject claims s).trans (hidentity s).symm
    exact ⟨token, (presents_iff hencloses.ne_empty).mp hpresents, claims,
      decodeClaims_eq_ok_iff.mpr hencloses, (), checkExpiry_eq_ok_iff.mpr hlasts, by rw [hsub]; rfl⟩

end AuthScheme

/-! ## The stage -/

namespace Stage

variable (op : Operation) (now : Int) (ctx : Context)

/-- What the authenticator for tokens with claims does with a request. -/
structure TokenGate : Prop where
  /-- It accepts exactly the tokens that stand for an identity. -/
  accepts : ∀ identity, AuthScheme.jwt.authenticate now ctx.exchange = .ok identity ↔
    AuthScheme.Admits now ctx.exchange identity
  /-- Then it notes the identity, and nothing else. -/
  admitted : ∀ identity, AuthScheme.Admits now ctx.exchange identity →
    (auth .jwt).run op now ctx = .proceed { ctx with auth := some identity }
  /-- Any other request ends with it; the context stays as it was. -/
  refused : (∀ identity, ¬ AuthScheme.Admits now ctx.exchange identity) →
    ∃ e, (auth .jwt).run op now ctx = .abort ctx e ∧ e.status = .unauthorized

variable {op now ctx}

theorem run_auth_of_ok {scheme : AuthScheme} {identity : AuthResult}
    (h : scheme.authenticate now ctx.exchange = .ok identity) :
    (auth scheme).run op now ctx = .proceed { ctx with auth := some identity } := by
  simp only [run, runAuth, h]

theorem tokenGate : TokenGate op now ctx := by
  refine ⟨fun identity => AuthScheme.authenticate_jwt_eq_ok_iff, fun identity h => ?_,
    fun hnone => ?_⟩
  · exact run_auth_of_ok (AuthScheme.authenticate_jwt_eq_ok_iff.mpr h)
  · cases hresult : AuthScheme.jwt.authenticate now ctx.exchange with
    | ok identity =>
        exact absurd (AuthScheme.authenticate_jwt_eq_ok_iff.mp hresult) (hnone identity)
    | error fault => exact ⟨.auth fault, run_auth_of_error hresult, rfl⟩

end Stage

end Conduit
