namespace PromiseHttp

/-!
# Request methods

The nine methods of the standard have constructors of their own; any other name is kept as it was
written.  Method names are case-sensitive.
-/

/-- The method of a request. -/
inductive Method where
  | get
  | post
  | put
  | delete
  | head
  | options
  | patch
  | connect
  | trace
  | custom (spelling : String)
  deriving DecidableEq, Repr

namespace Method

/-- The name of the method on the wire. -/
def name : Method → String
  | get => "GET"
  | post => "POST"
  | put => "PUT"
  | delete => "DELETE"
  | head => "HEAD"
  | options => "OPTIONS"
  | patch => "PATCH"
  | connect => "CONNECT"
  | trace => "TRACE"
  | custom spelling => spelling

/-- The method with the given name. -/
def ofName (spelling : String) : Method :=
  if spelling = "GET" then get
  else if spelling = "POST" then post
  else if spelling = "PUT" then put
  else if spelling = "DELETE" then delete
  else if spelling = "HEAD" then head
  else if spelling = "OPTIONS" then options
  else if spelling = "PATCH" then patch
  else if spelling = "CONNECT" then connect
  else if spelling = "TRACE" then trace
  else custom spelling

/-- Whether the method only asks. -/
def isSafe : Method → Bool
  | get | head | options | trace => true
  | _ => false

/-- Whether repeating the request does no more than sending it once. -/
def isIdempotent : Method → Bool
  | get | head | put | delete | options | trace => true
  | _ => false

@[simp]
theorem name_ofName (spelling : String) : (ofName spelling).name = spelling := by
  unfold ofName
  repeat' split
  all_goals simp_all [name]

theorem isIdempotent_of_isSafe {method : Method} (safe : method.isSafe = true) :
    method.isIdempotent = true := by
  cases method <;> simp_all [isSafe, isIdempotent]

end Method

end PromiseHttp
