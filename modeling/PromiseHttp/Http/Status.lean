namespace PromiseHttp

/-!
# Response status

Thirty-two status codes have a name and a reason phrase.  Every other code is kept as the number it
came as.  `ofCode` maps a number read from a connection to its named status whenever there is
one; a status built directly as `other` stays unnamed even for a named number.
-/

/-- The status of a response. -/
inductive Status where
  | continueRequest
  | switchingProtocols
  | ok
  | created
  | accepted
  | noContent
  | partialContent
  | movedPermanently
  | found
  | seeOther
  | notModified
  | temporaryRedirect
  | permanentRedirect
  | badRequest
  | unauthorized
  | forbidden
  | notFound
  | methodNotAllowed
  | conflict
  | gone
  | lengthRequired
  | payloadTooLarge
  | uriTooLong
  | unsupportedMediaType
  | unprocessableEntity
  | tooManyRequests
  | internalServerError
  | notImplemented
  | badGateway
  | serviceUnavailable
  | gatewayTimeout
  | versionNotSupported
  | other (number : Nat)
  deriving DecidableEq, Repr

namespace Status

/-- The number on the wire. -/
def code : Status → Nat
  | continueRequest => 100
  | switchingProtocols => 101
  | ok => 200
  | created => 201
  | accepted => 202
  | noContent => 204
  | partialContent => 206
  | movedPermanently => 301
  | found => 302
  | seeOther => 303
  | notModified => 304
  | temporaryRedirect => 307
  | permanentRedirect => 308
  | badRequest => 400
  | unauthorized => 401
  | forbidden => 403
  | notFound => 404
  | methodNotAllowed => 405
  | conflict => 409
  | gone => 410
  | lengthRequired => 411
  | payloadTooLarge => 413
  | uriTooLong => 414
  | unsupportedMediaType => 415
  | unprocessableEntity => 422
  | tooManyRequests => 429
  | internalServerError => 500
  | notImplemented => 501
  | badGateway => 502
  | serviceUnavailable => 503
  | gatewayTimeout => 504
  | versionNotSupported => 505
  | other number => number

/-- The named status of a number, if it has one. -/
def named? : Nat → Option Status
  | 100 => some continueRequest
  | 101 => some switchingProtocols
  | 200 => some ok
  | 201 => some created
  | 202 => some accepted
  | 204 => some noContent
  | 206 => some partialContent
  | 301 => some movedPermanently
  | 302 => some found
  | 303 => some seeOther
  | 304 => some notModified
  | 307 => some temporaryRedirect
  | 308 => some permanentRedirect
  | 400 => some badRequest
  | 401 => some unauthorized
  | 403 => some forbidden
  | 404 => some notFound
  | 405 => some methodNotAllowed
  | 409 => some conflict
  | 410 => some gone
  | 411 => some lengthRequired
  | 413 => some payloadTooLarge
  | 414 => some uriTooLong
  | 415 => some unsupportedMediaType
  | 422 => some unprocessableEntity
  | 429 => some tooManyRequests
  | 500 => some internalServerError
  | 501 => some notImplemented
  | 502 => some badGateway
  | 503 => some serviceUnavailable
  | 504 => some gatewayTimeout
  | 505 => some versionNotSupported
  | _ => none

/-- The status that a number read from a connection stands for. -/
def ofCode (number : Nat) : Status :=
  (named? number).getD (other number)

/-- The reason phrase; an unnamed status has an empty one. -/
def reason : Status → String
  | continueRequest => "Continue"
  | switchingProtocols => "Switching Protocols"
  | ok => "OK"
  | created => "Created"
  | accepted => "Accepted"
  | noContent => "No Content"
  | partialContent => "Partial Content"
  | movedPermanently => "Moved Permanently"
  | found => "Found"
  | seeOther => "See Other"
  | notModified => "Not Modified"
  | temporaryRedirect => "Temporary Redirect"
  | permanentRedirect => "Permanent Redirect"
  | badRequest => "Bad Request"
  | unauthorized => "Unauthorized"
  | forbidden => "Forbidden"
  | notFound => "Not Found"
  | methodNotAllowed => "Method Not Allowed"
  | conflict => "Conflict"
  | gone => "Gone"
  | lengthRequired => "Length Required"
  | payloadTooLarge => "Payload Too Large"
  | uriTooLong => "URI Too Long"
  | unsupportedMediaType => "Unsupported Media Type"
  | unprocessableEntity => "Unprocessable Entity"
  | tooManyRequests => "Too Many Requests"
  | internalServerError => "Internal Server Error"
  | notImplemented => "Not Implemented"
  | badGateway => "Bad Gateway"
  | serviceUnavailable => "Service Unavailable"
  | gatewayTimeout => "Gateway Timeout"
  | versionNotSupported => "HTTP Version Not Supported"
  | other _ => ""

/-- The status as people write it: the number and the reason, or the number alone. -/
def display : Status → String
  | other number => Nat.repr number
  | status => Nat.repr status.code ++ " " ++ status.reason

/-- Whether the code is one of the two hundreds. -/
def isSuccess (status : Status) : Bool :=
  200 ≤ status.code && status.code < 300

/-! ## Names and numbers agree -/

theorem code_of_named? {number : Nat} {status : Status} (known : named? number = some status) :
    status.code = number := by
  unfold named? at known
  split at known <;> cases known <;> rfl

@[simp]
theorem code_ofCode (number : Nat) : (ofCode number).code = number := by
  unfold ofCode
  cases known : named? number with
  | none => rfl
  | some status => exact code_of_named? known

end Status

end PromiseHttp
