namespace PromiseHttp

/-!
# Settings that make no sense

Settings may be well-formed and still useless: nobody would do the work, or no request could be
held.
-/

/-- Why settings are refused. -/
inductive SettingsFault where
  | noThreads
  | noRequestRoom
  deriving DecidableEq, Repr

/-- The fault in words. -/
def SettingsFault.message : SettingsFault → String
  | noThreads => "threads must be at least 1"
  | noRequestRoom => "max_request_size must be non-zero"

end PromiseHttp
