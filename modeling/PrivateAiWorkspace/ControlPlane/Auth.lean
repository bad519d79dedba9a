import PrivateAiWorkspace.Python.Basic

/-!
# Bearer tokens, tenants and JSON responses

What every authenticated endpoint of the control plane shares: the response
shape, the bearer check of `notifications.py` and the tenant of a caller.
`str.lower` is a parameter, so that no result depends on Unicode case tables.
-/

namespace PrivateAiWorkspace.ControlPlane

open Python

/-- `http.HTTPStatus`, as far as the handlers use it. -/
inductive HttpStatus where
  | ok
  | created
  | accepted
  | badRequest
  | unauthorized
  | forbidden
  | notFound
  | requestEntityTooLarge
  | unsupportedMediaType
  | unprocessableEntity
  | tooManyRequests
  | badGateway
  | serviceUnavailable
  | gatewayTimeout
  deriving DecidableEq, Repr

/-- Status code on the wire. -/
def HttpStatus.code : HttpStatus → Nat
  | .ok => 200
  | .created => 201
  | .accepted => 202
  | .badRequest => 400
  | .unauthorized => 401
  | .forbidden => 403
  | .notFound => 404
  | .requestEntityTooLarge => 413
  | .unsupportedMediaType => 415
  | .unprocessableEntity => 422
  | .tooManyRequests => 429
  | .badGateway => 502
  | .serviceUnavailable => 503
  | .gatewayTimeout => 504

/-- What a `build_*` function returns: status and payload. -/
abbrev JsonResponse := HttpStatus × Json

/-- Payload of most refusals. -/
def errorPayload (error detail : String) : Json :=
  .obj [("error", .str error), ("detail", .str detail)]

/-- `TokenClaims`: the verified claims of a bearer token. -/
structure TokenClaims where
  subject : String
  email : String
  groups : List String

/-- `has_group`. -/
def TokenClaims.hasGroup (claims : TokenClaims) (group : String) : Bool :=
  claims.groups.contains group

/-- `TokenVerifier.verify`: the claims, or an exception. -/
abbrev TokenVerifier := String → Except PyException TokenClaims

/-- `_UNAUTH_MISSING`. -/
def unauthMissing : JsonResponse :=
  (.unauthorized, errorPayload "unauthorized" "Bearer token required.")

/-- `_UNAUTH_INVALID`. -/
def unauthInvalid : JsonResponse :=
  (.unauthorized, errorPayload "unauthorized" "Invalid or expired token.")

/-- `_AUTH_NOT_CONFIGURED`. -/
def authNotConfigured : JsonResponse :=
  (.serviceUnavailable, .obj
    [("error", .str "auth_not_configured"),
      ("detail", .str "Authentication is not configured on this instance."),
      ("status", .str "degraded")])

section Lower

variable (lower : String → String)

/-- Token of an `Authorization` header of the form `Bearer <token>`. -/
def bearerToken (authorization : Option String) : Option String :=
  match Str.splitWord (authorization.getD "") with
  | [scheme, token] =>
      if lower scheme = "bearer" then some (Str.strip token) else none
  | _ => none

/-- `_verify_and_extract`: the caller's claims, or the response that refuses
the request. Only `TokenVerificationError` is caught. -/
def verifyAndExtract (authorization : Option String)
    (tokenVerifier : Option TokenVerifier) :
    Except PyException (Except JsonResponse TokenClaims) :=
  match bearerToken lower authorization with
  | none | some "" => .ok (.error unauthMissing)
  | some rawToken =>
      match tokenVerifier with
      | none => .ok (.error authNotConfigured)
      | some verify =>
          match verify rawToken with
          | .ok claims => .ok (.ok claims)
          | .error .tokenVerificationError => .ok (.error unauthInvalid)
          | .error error => .error error

/-- `_extract_tenant_id`: the domain of the e-mail claim. -/
def extractTenantId (claims : TokenClaims) : String :=
  if Str.contains claims.email "@" then lower (Str.after '@' claims.email)
  else "default"

end Lower

end PrivateAiWorkspace.ControlPlane
