namespace PromiseHttp

/-!
# Paths of files

A path leads to a file through its components, which slashes separate.  Two slashes in a row, a
slash at the end and the components that stand for the directory itself do not count; the component
that stands for the parent directory does, and it is not resolved.
-/

namespace FilePath

/-- The components of a path. -/
def components (path : String) : List String :=
  (path.splitOn "/").filter fun component => component != "" && component != "."

/-- Whether the path starts at the root. -/
def isAbsolute (path : String) : Bool :=
  path.startsWith "/"

/-- Whether two paths lead to the same file from the same place. -/
def same (first second : String) : Bool :=
  isAbsolute first == isAbsolute second && components first == components second

/-- The last component of a path. -/
def lastComponent? (path : String) : Option String :=
  (components path).getLast?

/-- What follows the last dot of a component, unless that dot opens it.  The component that stands
for the parent directory has no extension. -/
def extension? (component : String) : Option String :=
  if component = ".." then none
  else
    let reversed := component.toList.reverse
    match reversed.dropWhile (· != '.') with
    | _ :: _ :: _ => some (String.ofList (reversed.takeWhile (· != '.')).reverse)
    | _ => none

end FilePath

end PromiseHttp
