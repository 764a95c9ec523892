import Conduit.Base64
import Conduit.Pipeline.Context

/-!
Authentication schemes: bearer tokens with or without readable claims, and API keys. Signatures of
tokens are not checked.
-/

namespace Conduit

inductive AuthScheme
  | jwt | bearer | apiKey
  deriving DecidableEq, Repr, Inhabited

namespace AuthScheme

def name : AuthScheme → String
  | jwt => "jwt"
  | bearer => "bearer"
  | apiKey => "api_key"

def parse? (value : String) : Option AuthScheme :=
  match Text.lower (Text.trim value) with
  | "jwt" => some jwt
  | "bearer" => some bearer
  | "api_key" | "apikey" => some apiKey
  | _ => none

def authorizationHeader : String := "authorization"
def keyHeader : String := "x-api-key"

/-- The token of a bearer header; the scheme's name is read in this case only. -/
def bearerToken (header : Option String) : Except AuthFault String :=
  match header with
  | none => .error .missingHeader
  | some value =>
    match Text.stripLead "Bearer " value with
    | none => .error .notBearer
    | some rest =>
      let token := Text.trim rest
      if token = "" then .error .emptyToken else .ok token

/-- The claims of a token: the second of its three segments, as JSON in base64. -/
def decodeClaims (token : String) : Except AuthFault Json :=
  match Text.splitAt '.' token with
  | [_, claims, _] =>
    match Base64.decodeUrl (Utf8.encode (Text.trimEndOf '=' claims)) with
    | .error fault => .error (.malformedClaims fault.message)
    | .ok bytes =>
      match Json.parse bytes with
      | .error e => .error (.malformedClaims e.message)
      | .ok claims => if claims.isObject then .ok claims else .error .claimsNotObject
  | _ => .error .malformedToken

/-- Claims without an expiry last; others have to expire after `now`. -/
def checkExpiry (now : Int) (claims : Json) : Except AuthFault Unit :=
  match claims.get? "exp" with
  | none => .ok ()
  | some expiry =>
    match expiry.int64? with
    | none => .error .expiryNotTimestamp
    | some at_ => if at_ ≤ now then .error .expired else .ok ()

/-- Accepts or refuses the credentials of a request at a time in seconds. -/
def authenticate (scheme : AuthScheme) (now : Int) (x : Exchange) :
    Except AuthFault AuthResult :=
  match scheme with
  | jwt => do
    let token ← bearerToken (x.header? authorizationHeader)
    let claims ← decodeClaims token
    checkExpiry now claims
    return ⟨scheme.name, (claims.get? "sub").bind Json.str?, claims⟩
  | bearer => do
    let _ ← bearerToken (x.header? authorizationHeader)
    return ⟨scheme.name, none, .null⟩
  | apiKey =>
    match ((x.header? keyHeader).map Text.trim).filter (· ≠ "") with
    | some key => .ok ⟨scheme.name, some key, .null⟩
    | none => .error .missingKey

end AuthScheme

end Conduit
