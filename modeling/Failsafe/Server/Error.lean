import Failsafe.Core.Api

/-!
The errors of the registration server and the responses they become
(`failsafe-server/src/error.rs`).
-/

namespace Failsafe.Server

open Failsafe.Core

inductive AuthError where
  | invalidCredentials
  | invalidToken
  | hashingFailed
  | jwt (message : String)
deriving DecidableEq, Repr

def AuthError.toText : AuthError → String
  | .invalidCredentials => "invalid credentials"
  | .invalidToken => "invalid token"
  | .hashingFailed => "password hashing failed"
  | .jwt message => "jwt error: " ++ message

inductive ServerError where
  | unauthorized
  | conflict (message : String)
  | badRequest (message : String)
  | notFound
  | forbidden
  | forbiddenMessage (message : String)
  | database (message : String)
  | auth (error : AuthError)
  | internal (message : String)
deriving DecidableEq, Repr

def ServerError.toText : ServerError → String
  | .unauthorized => "unauthorized"
  | .conflict message => "conflict: " ++ message
  | .badRequest message => "bad request: " ++ message
  | .notFound => "not found"
  | .forbidden => "forbidden"
  | .forbiddenMessage message => "forbidden: " ++ message
  | .database message => message
  | .auth error => error.toText
  | .internal message => message

inductive StatusCode where
  | ok
  | noContent
  | badRequest
  | unauthorized
  | forbidden
  | notFound
  | conflict
  | tooManyRequests
  | internalServerError
deriving DecidableEq, Repr

def StatusCode.toNat : StatusCode → Nat
  | .ok => 200
  | .noContent => 204
  | .badRequest => 400
  | .unauthorized => 401
  | .forbidden => 403
  | .notFound => 404
  | .conflict => 409
  | .tooManyRequests => 429
  | .internalServerError => 500

def StatusCode.isSuccess (status : StatusCode) : Bool :=
  200 ≤ status.toNat && status.toNat < 300

def ServerError.statusCode : ServerError → StatusCode
  | .unauthorized | .auth .invalidCredentials => .unauthorized
  | .auth .invalidToken => .unauthorized
  | .conflict _ => .conflict
  | .badRequest _ => .badRequest
  | .notFound => .notFound
  | .forbidden | .forbiddenMessage _ => .forbidden
  | .database _ | .auth _ | .internal _ => .internalServerError

theorem ServerError.statusCode_isSuccess (error : ServerError) :
    error.statusCode.isSuccess = false := by
  cases error with
  | auth error => cases error <;> rfl
  | _ => rfl

theorem ServerError.statusCode_ne_ok (error : ServerError) : error.statusCode ≠ .ok := by
  intro hok
  have hsuccess := error.statusCode_isSuccess
  rw [hok] at hsuccess
  cases hsuccess

/-- The message of `into_response`, where internal errors are not told. -/
def ServerError.apiError (error : ServerError) : ApiError :=
  { error :=
      match error with
      | .unauthorized | .auth .invalidCredentials => error.toText
      | .auth .invalidToken => error.toText
      | .conflict message => message
      | .badRequest message => message
      | .notFound => error.toText
      | .forbidden | .forbiddenMessage _ => error.toText
      | .database _ | .auth _ | .internal _ => "internal server error" }

end Failsafe.Server
