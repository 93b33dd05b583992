import Mathlib.Data.List.DropRight
import PromiseHttp.Client.Sending
import PromiseHttp.Proofs.Text.Counts

namespace PromiseHttp

/-!
# The server that a target names

A target is accepted if a host and a port are left of it once one scheme is taken from its front and
all slashes from its end, and what is left is the name under which the client knows its server.  Only
the port is looked into.  Any text but the empty one is a host, so slashes and colons in front of the
last colon stay where they are, and so does a second scheme.

A name that does not begin with a scheme is a target for itself: a client that is given the target of
another is bound to the same server.
-/

namespace Target

/-- The characters of a port: digits that denote a number of 16 bits, perhaps with a plus sign before
them. -/
def IsPort (chars : List Char) : Prop :=
  ∃ sign digits : List Char, chars = sign ++ digits ∧ (sign = [] ∨ sign = ['+']) ∧
    digits ≠ [] ∧ (∀ c ∈ digits, c.isDigit = true) ∧ Nat.ofDigitChars 10 digits 0 ≤ 65535

/-- The characters are a host, which is not empty, and a port with a colon between them. -/
structure Names (chars host port : List Char) : Prop where
  parts : chars = host ++ ':' :: port
  host_ne_nil : host ≠ []
  port_isPort : IsPort port

/-- The target is the name with slashes behind it, and with a scheme before it if the target begins
with one.  A slash at the end never belongs to the name. -/
def Carries (target name : List Char) : Prop :=
  ∃ lead slashes, target = lead ++ name ++ slashes ∧
    (lead = scheme ∨ lead = [] ∧ ¬ scheme <+: target) ∧ (∀ c ∈ slashes, c = '/') ∧
    name.getLast? ≠ some '/'

variable {chars host port : List Char}

/-! ## What is taken off -/

theorem dropScheme_scheme (rest : List Char) : dropScheme (scheme ++ rest) = rest := by
  have begins : scheme.isPrefixOf (scheme ++ rest) = true :=
    List.isPrefixOf_iff_prefix.mpr (List.prefix_append scheme rest)
  rw [dropScheme, if_pos begins, List.drop_left]

theorem dropScheme_bare (bare : ¬ scheme <+: chars) : dropScheme chars = chars := by
  rw [dropScheme, if_neg]
  rwa [List.isPrefixOf_iff_prefix]

theorem dropSlashes_eq (chars : List Char) : dropSlashes chars = chars.rdropWhile (· == '/') := rfl

theorem dropSlashes_eq_self_iff : dropSlashes chars = chars ↔ chars.getLast? ≠ some '/' := by
  rw [dropSlashes_eq, List.rdropWhile_eq_self_iff]
  constructor
  · intro kept slash
    rcases List.getLast?_eq_some_iff.mp slash with ⟨before, rfl⟩
    apply kept (List.concat_ne_nil '/' before)
    rw [List.getLast_concat, beq_self_eq_true]
  · intro ends nonempty slash
    apply ends
    rw [List.getLast?_eq_some_getLast nonempty, beq_iff_eq.mp slash]

/-- Slashes behind are taken off up to the last character that is none. -/
theorem dropSlashes_append {slashes : List Char} (ends : chars.getLast? ≠ some '/')
    (all : ∀ c ∈ slashes, c = '/') : dropSlashes (chars ++ slashes) = chars := by
  have slash : ∀ c ∈ slashes.reverse, (c == '/') = true :=
    fun c member => beq_iff_eq.mpr (all c (List.mem_reverse.mp member))
  rw [dropSlashes, List.reverse_append, List.dropWhile_append_of_pos slash]
  exact dropSlashes_eq_self_iff.mpr ends

/-- A target carries exactly what is left of it. -/
theorem carries_iff {target name : List Char} :
    Carries target name ↔ dropSlashes (dropScheme target) = name := by
  constructor
  · rintro ⟨lead, slashes, rfl, front, all, ends⟩
    rcases front with rfl | ⟨rfl, bare⟩
    · rw [List.append_assoc, dropScheme_scheme, dropSlashes_append ends all]
    · rw [dropScheme_bare bare, List.nil_append, dropSlashes_append ends all]
  · rintro rfl
    have ends : (dropSlashes (dropScheme target)).getLast? ≠ some '/' :=
      dropSlashes_eq_self_iff.mp (List.rdropWhile_idempotent _ _)
    have behind : dropSlashes (dropScheme target) ++
        (dropScheme target).rtakeWhile (· == '/') = dropScheme target :=
      List.rdropWhile_append_rtakeWhile
    have all : ∀ c ∈ (dropScheme target).rtakeWhile (· == '/'), c = '/' := by
      intro c member
      have slash : (c == '/') = true := List.mem_rtakeWhile_imp (p := (· == '/')) member
      exact beq_iff_eq.mp slash
    by_cases begins : scheme <+: target
    · rcases begins with ⟨rest, rfl⟩
      refine ⟨scheme, _, ?_, Or.inl rfl, all, ends⟩
      rw [List.append_assoc, behind, dropScheme_scheme]
    · refine ⟨[], _, ?_, Or.inr ⟨rfl, begins⟩, all, ends⟩
      rw [List.nil_append, behind, dropScheme_bare begins]

/-! ## Hosts and ports -/

theorem isPort_iff :
    (Text.readNumeral Text.portBound (String.ofList port)).isSome = true ↔ IsPort port := by
  rw [Option.isSome_iff_exists]
  constructor
  · rintro ⟨value, read⟩
    rcases Text.readNumeral_eq_some.mp read with ⟨found, below⟩
    rw [String.toList_ofList] at found
    rcases Text.digitsValue?_eq_some.mp found with ⟨nonempty, plain, rfl⟩
    rcases Text.exists_sign_unsigned port with ⟨sign, parts, signed⟩
    exact ⟨sign, Text.unsigned port, parts, signed, nonempty, plain, Nat.le_of_lt_succ below⟩
  · rintro ⟨sign, digits, rfl, signed, nonempty, plain, most⟩
    refine ⟨Nat.ofDigitChars 10 digits 0,
      Text.readNumeral_eq_some.mpr ⟨?_, Nat.lt_succ_of_le most⟩⟩
    rw [String.toList_ofList, Text.unsigned_signed signed plain]
    exact Text.digitsValue?_eq_some.mpr ⟨nonempty, plain, rfl⟩

/-- Nothing but digits and a sign stands in a port. -/
theorem IsPort.not_mem (isPort : IsPort port) {c : Char} (unsigned : c ≠ '+')
    (undigited : c.isDigit = false) : c ∉ port := by
  rcases isPort with ⟨sign, digits, rfl, signed, _, plain, _⟩
  intro member
  rcases List.mem_append.mp member with among | among
  · rcases signed with rfl | rfl
    · cases among
    · exact unsigned (List.mem_singleton.mp among)
  · exact Bool.false_ne_true (undigited.symm.trans (plain c among))

theorem splitPort?_eq_some :
    splitPort? chars = some (host, port) ↔ chars = host ++ ':' :: port ∧ ':' ∉ port := by
  unfold splitPort?
  constructor
  · intro divided
    have whole : chars.reverse.takeWhile (· != ':') ++ chars.reverse.dropWhile (· != ':') =
      chars.reverse := List.takeWhile_append_dropWhile
    have stops := List.head?_dropWhile_not (· != ':') chars.reverse
    split at divided
    · cases divided
    · rename_i colon before found
      rw [found] at whole stops
      cases divided
      obtain rfl : colon = ':' := by simpa using stops
      have parts := congrArg List.reverse whole
      rw [List.reverse_append, List.reverse_cons, List.append_assoc, List.singleton_append,
        List.reverse_reverse] at parts
      constructor
      · exact parts.symm
      · intro member
        have passed := List.mem_takeWhile_imp (List.mem_reverse.mp member)
        exact bne_iff_ne.mp passed rfl
  · rintro ⟨rfl, last⟩
    have colonless : ∀ c ∈ port.reverse, (c != ':') = true := by
      intro c member
      rw [bne_iff_ne]
      rintro rfl
      exact last (List.mem_reverse.mp member)
    rw [List.reverse_append, List.reverse_cons, List.append_assoc, List.singleton_append,
      List.dropWhile_append_of_pos colonless, List.takeWhile_append_of_pos colonless]
    simp

/-- The host and the port of a name are found at its last colon. -/
theorem Names.split (names : Names chars host port) : splitPort? chars = some (host, port) :=
  splitPort?_eq_some.mpr ⟨names.parts, names.port_isPort.not_mem (by decide) (by decide)⟩

theorem isAuthority_iff : isAuthority chars = true ↔ ∃ host port, Names chars host port := by
  unfold isAuthority
  constructor
  · intro accepted
    split at accepted
    · rename_i host port divided
      rw [Bool.and_eq_true, Bool.not_eq_true', isPort_iff] at accepted
      exact ⟨host, port, (splitPort?_eq_some.mp divided).1, List.isEmpty_eq_false_iff.mp accepted.1,
        accepted.2⟩
    · cases accepted
  · rintro ⟨host, port, names⟩
    rw [names.split]
    dsimp only
    rw [isPort_iff.mpr names.port_isPort, List.isEmpty_eq_false_iff.mpr names.host_ne_nil]
    rfl

/-! ## Acceptance -/

/-- A target is accepted under the name that it carries, if that is a host and a port. -/
theorem parse_eq_ok {target name : String} :
    parse target = .ok name ↔
      Carries target.toList name.toList ∧ ∃ host port, Names name.toList host port := by
  rw [carries_iff, ← isAuthority_iff, parse]
  constructor
  · intro accepted
    split at accepted
    · rename_i authority
      cases accepted
      rw [String.toList_ofList]
      exact ⟨rfl, authority⟩
    · cases accepted
  · rintro ⟨left, authority⟩
    rw [left, if_pos authority, String.ofList_toList]

theorem eq_of_parse_error {target : String} {fault : ClientFault}
    (refused : parse target = .error fault) : fault = .invalidTarget target := by
  rw [parse] at refused
  split at refused
  · cases refused
  · cases refused
    rfl

/-- A name is carried by itself unless a scheme stands in front of it. -/
theorem Carries.again {target name : List Char} (carries : Carries target name)
    (bare : ¬ scheme <+: name) : Carries name name := by
  rcases carries with ⟨_, _, _, _, _, ends⟩
  refine ⟨[], [], ?_, Or.inr ⟨rfl, bare⟩, ?_, ends⟩
  · rw [List.nil_append, List.append_nil]
  · intro c member
    cases member

/-- What a target is accepted as is accepted as it is, unless a scheme stands in front of it. -/
theorem parse_again {target name : String} (accepted : parse target = .ok name)
    (bare : ¬ scheme <+: name.toList) : parse name = .ok name := by
  rcases parse_eq_ok.mp accepted with ⟨carries, names⟩
  exact parse_eq_ok.mpr ⟨carries.again bare, names⟩

/-! ## Hosts without slashes -/

theorem Names.slash_not_mem_port (names : Names chars host port) : '/' ∉ port :=
  names.port_isPort.not_mem (by decide) (by decide)

theorem Names.slash_mem_iff (names : Names chars host port) : '/' ∈ chars ↔ '/' ∈ host := by
  rw [names.parts, List.mem_append, List.mem_cons]
  constructor
  · rintro (within | colon | behind)
    · exact within
    · cases colon
    · exact absurd behind names.slash_not_mem_port
  · exact Or.inl

theorem Names.getLast?_ne_slash (names : Names chars host port) : chars.getLast? ≠ some '/' := by
  intro slash
  rw [names.parts, List.getLast?_append_of_ne_nil host (List.cons_ne_nil ':' port)] at slash
  rcases List.mem_cons.mp (List.mem_of_getLast? slash) with colon | behind
  · cases colon
  · exact names.slash_not_mem_port behind

theorem Names.exists_digit (names : Names chars host port) : ∃ c ∈ chars, c.isDigit = true := by
  rcases names.port_isPort with ⟨sign, digits, rfl, _, nonempty, plain, _⟩
  rcases List.exists_mem_of_ne_nil digits nonempty with ⟨digit, member⟩
  refine ⟨digit, ?_, plain digit member⟩
  rw [names.parts]
  exact List.mem_append_right _ (List.mem_cons_of_mem _ (List.mem_append_right _ member))

/-- A host without slashes is not mistaken for a scheme, whatever stands behind its port. -/
theorem Names.bare (names : Names chars host port) (slashless : '/' ∉ host) (behind : List Char) :
    ¬ scheme <+: chars ++ behind := by
  intro begins
  rcases List.prefix_or_prefix_of_prefix begins (List.prefix_append chars behind) with whole | part
  · exact slashless (names.slash_mem_iff.mp (whole.subset (by decide : '/' ∈ scheme)))
  · -- The name would be a part of the scheme, but there are no digits in it.
    have undigited : scheme.all (!·.isDigit) = true := by decide
    rcases names.exists_digit with ⟨digit, member, isDigit⟩
    have other := List.all_eq_true.mp undigited digit (part.subset member)
    rw [isDigit] at other
    cases other

theorem Names.carried (names : Names chars host port) (slashless : '/' ∉ host)
    {lead slashes : List Char} (front : lead = [] ∨ lead = scheme) (all : ∀ c ∈ slashes, c = '/') :
    Carries (lead ++ chars ++ slashes) chars := by
  refine ⟨lead, slashes, rfl, ?_, all, names.getLast?_ne_slash⟩
  rcases front with rfl | rfl
  · exact Or.inr ⟨rfl, names.bare slashless slashes⟩
  · exact Or.inl rfl

end Target

/-! ## Clients -/

namespace Client

variable {settings : ClientSettings} {target : String}

/-- With settings that make sense, it is up to the target whether there is a client. -/
theorem new_of_valid (valid : settings.validate = .ok ()) :
    new target settings = (Target.parse target).map fun name => ⟨name, settings, false⟩ := by
  rw [new, valid]
  cases Target.parse target with
  | error fault => rfl
  | ok name => rfl

/-- A client is bound to what its target was accepted as. -/
theorem parse_of_new {client : Client} (made : new target settings = .ok client) :
    Target.parse target = .ok client.target := by
  rw [new] at made
  split at made
  · cases made
  · split at made
    · cases made
    · rename_i name parsed
      cases made
      exact parsed

end Client

namespace Target

/-- A target is accepted exactly if it carries a host and a port, and the client is bound to what it
carries.  Unless a scheme stands in front of that as well, it is accepted as it is, and whoever makes
another client of it is bound to the same server.  A host without slashes in it is found under a scheme
and in front of any number of slashes.  A target that is refused is reported as it was given. -/
theorem targets_name_host_and_port (target : String) :
    (∀ name, parse target = .ok name ↔
      Carries target.toList name.toList ∧ ∃ host port, Names name.toList host port) ∧
    (∀ name, parse target = .ok name → ¬ scheme <+: name.toList → parse name = .ok name) ∧
    (∀ settings client, Client.new target settings = .ok client →
      parse target = .ok client.target ∧ (¬ scheme <+: client.target.toList →
        ∀ others : ClientSettings, others.validate = .ok () →
          Client.new client.target others = .ok ⟨client.target, others, false⟩)) ∧
    (∀ lead host port slashes, target.toList = lead ++ (host ++ ':' :: port) ++ slashes →
      (lead = [] ∨ lead = scheme) → host ≠ [] → '/' ∉ host → IsPort port →
      (∀ c ∈ slashes, c = '/') → parse target = .ok (String.ofList (host ++ ':' :: port))) ∧
    ∀ fault, parse target = .error fault → fault = .invalidTarget target := by
  refine ⟨fun name => parse_eq_ok, fun name => parse_again, ?_, ?_, fun fault => eq_of_parse_error⟩
  · intro settings client made
    have accepted := Client.parse_of_new made
    refine ⟨accepted, ?_⟩
    intro bare others valid
    rw [Client.new_of_valid valid, parse_again accepted bare]
    rfl
  · intro lead host port slashes whole front nonempty slashless isPort all
    have names : Names (host ++ ':' :: port) host port := ⟨rfl, nonempty, isPort⟩
    apply parse_eq_ok.mpr
    rw [whole, String.toList_ofList]
    exact ⟨names.carried slashless front all, host, port, names⟩

/-- A host with colons in it is found under a scheme and in front of slashes, and the name that is left
of them leads another client to the same server. -/
theorem bracketed_host_is_found :
    parse "http://[::1]:+080//" = .ok "[::1]:+080" ∧ parse "[::1]:+080" = .ok "[::1]:+080" ∧
      Client.new "[::1]:+080" .defaults = .ok ⟨"[::1]:+080", .defaults, false⟩ := by
  rcases targets_name_host_and_port "http://[::1]:+080//" with ⟨_, again, bound, found, _⟩
  have digits : ∀ c ∈ "080".toList, c.isDigit = true := List.all_eq_true.mp (by decide)
  have port : IsPort "+080".toList :=
    ⟨['+'], "080".toList, rfl, Or.inr rfl, by decide, digits, by decide⟩
  have slashes : ∀ c ∈ "//".toList, c = '/' :=
    fun c member => List.eq_of_mem_replicate (n := 2) member
  have accepted : parse "http://[::1]:+080//" = .ok "[::1]:+080" :=
    found scheme "[::1]".toList "+080".toList "//".toList rfl (Or.inr rfl) (by decide) (by decide)
      port slashes
  have bare : ¬ scheme <+: "[::1]:+080".toList := by decide
  have made : Client.new "http://[::1]:+080//" .defaults = .ok ⟨"[::1]:+080", .defaults, false⟩ := by
    rw [Client.new_of_valid rfl, accepted]
    rfl
  exact ⟨accepted, again _ accepted bare, (bound _ _ made).2 bare .defaults rfl⟩

/-- The name is a host without slashes, a colon and digits that denote a port. -/
def IsPlain (name : String) : Prop :=
  ∃ host port, Names name.toList host port ∧ '/' ∉ host ∧ ∀ c ∈ port, c.isDigit = true

/-- Three targets are accepted under names that are not plain, and the first of these names is itself a
target for another server. -/
theorem second_scheme_stays :
    (parse "http://http://a:80" = .ok "http://a:80" ∧ ¬ IsPlain "http://a:80" ∧
      parse "http://a:80" ≠ .ok "http://a:80") ∧
    (parse "a/b:80" = .ok "a/b:80" ∧ ¬ IsPlain "a/b:80") ∧
    parse "a:+80" = .ok "a:+80" ∧ ¬ IsPlain "a:+80" := by
  have slashed : ∀ name : String, '/' ∈ name.toList → ¬ IsPlain name := by
    rintro name slash ⟨host, port, names, slashless, _⟩
    exact slashless (names.slash_mem_iff.mp slash)
  refine ⟨⟨rfl, slashed _ (by decide), ?_⟩, ⟨rfl, slashed _ (by decide)⟩, rfl, ?_⟩
  · have other : parse "http://a:80" = .ok "a:80" := rfl
    rw [other]
    intro same
    exact absurd (Except.ok.inj same) (by decide)
  · rintro ⟨host, port, names, _, digits⟩
    have divided : splitPort? "a:+80".toList = some ("a".toList, "+80".toList) := rfl
    cases names.split.symm.trans divided
    exact absurd (digits '+' (by decide)) (by decide)

end Target
end PromiseHttp
