import PromiseHttp.Http.Response

namespace PromiseHttp

/-!
# Heads with more octets behind them

A head is read while its octets are still arriving, so the same octets are read again and again with
more and more behind them.  That is harmless for two reasons, which hold of every reader of the
grammar.  An answer that was given once, a part or a refusal, is given again when more octets stand
behind.  And what a reader leaves over is the end of what it was given, shorter by at least as much
as the shortest form of its part.

Both properties are kept by reading one part behind another, so the heads get them from their parts.
-/

namespace Scan

variable {α β : Type}

/-- The answer with more octets behind what is left over. -/
def followedBy (scan : Scan α) (more : Octets) : Scan α :=
  match scan with
  | found part rest => found part (rest ++ more)
  | needMore => needMore
  | refused fault => refused fault

/-- More octets behind those that decided an answer leave the answer as it is. -/
def Steady (read : Octets → Scan α) : Prop :=
  ∀ octets more, read octets ≠ needMore → read (octets ++ more) = (read octets).followedBy more

/-- What is left over is an end of what was read, and at least so many octets are gone. -/
def Consumes (least : Nat) (read : Octets → Scan α) : Prop :=
  ∀ octets part rest, read octets = found part rest →
    ∃ taken, octets = taken ++ rest ∧ least ≤ taken.length

theorem Steady.andThen {read : Octets → Scan α} {next : α → Octets → Scan β}
    (first : Steady read) (second : ∀ part, Steady (next part)) :
    Steady fun octets => (read octets).andThen (next · ·) := by
  intro octets more decided
  have kept : read octets ≠ needMore := by
    intro undecided
    apply decided
    simp only [undecided, andThen_needMore]
  have longer := first octets more kept
  cases answer : read octets with
  | needMore => exact absurd answer kept
  | refused fault => simp only [longer, answer, followedBy, andThen_refused]
  | found part rest =>
      have further := second part rest more
      simp only [answer, andThen_found] at decided
      simp only [longer, answer, followedBy, andThen_found]
      exact further decided

theorem Steady.map {read : Octets → Scan α} (first : Steady read) (change : α → β) :
    Steady fun octets => (read octets).map change :=
  first.andThen fun _ _ _ _ => rfl

theorem Consumes.andThen {least further : Nat} {read : Octets → Scan α}
    {next : α → Octets → Scan β} (first : Consumes least read)
    (second : ∀ part, Consumes further (next part)) :
    Consumes (least + further) fun octets => (read octets).andThen (next · ·) := by
  intro octets part rest answered
  cases answer : read octets with
  | needMore => simp only [answer, andThen_needMore, reduceCtorEq] at answered
  | refused fault => simp only [answer, andThen_refused, reduceCtorEq] at answered
  | found earlier between =>
      simp only [answer, andThen_found] at answered
      rcases first octets earlier between answer with ⟨taken, split, long⟩
      rcases second earlier between part rest answered with ⟨further, split', long'⟩
      refine ⟨taken ++ further, ?_, ?_⟩
      · rw [split, split', List.append_assoc]
      · rw [List.length_append]
        exact Nat.add_le_add long long'

theorem Consumes.map {least : Nat} {read : Octets → Scan α} (first : Consumes least read)
    (change : α → β) : Consumes least fun octets => (read octets).map change := by
  have nothing : ∀ part : α, Consumes 0 fun rest => found (change part) rest := by
    intro part octets other rest answer
    cases answer
    exact ⟨[], rfl, Nat.le_refl 0⟩
  exact first.andThen nothing

theorem Consumes.weaken {least fewer : Nat} {read : Octets → Scan α} (first : Consumes least read)
    (weaker : fewer ≤ least) : Consumes fewer read := by
  intro octets part rest answer
  rcases first octets part rest answer with ⟨taken, split, long⟩
  exact ⟨taken, split, Nat.le_trans weaker long⟩

end Scan

namespace Head

open Scan

/-! ## Runs of octets -/

/-- A run that is ended by an octet ends there whatever follows. -/
theorem run_append {ofClass : UInt8 → Bool} {octets rest : Octets} {stop : UInt8}
    (ended : octets.dropWhile ofClass = stop :: rest) (more : Octets) :
    (octets ++ more).takeWhile ofClass = octets.takeWhile ofClass ∧
      (octets ++ more).dropWhile ofClass = stop :: (rest ++ more) := by
  have whole : octets.takeWhile ofClass ++ stop :: rest = octets := by
    rw [← ended]
    exact List.takeWhile_append_dropWhile
  have shorter : (octets.takeWhile ofClass).length ≠ octets.length := by
    intro same
    have lengths := congrArg List.length whole
    simp only [List.length_append, List.length_cons] at lengths
    omega
  constructor
  · rw [List.takeWhile_append, if_neg shorter]
  · rw [List.dropWhile_append, ended]
    rfl

/-- What stands behind a run is an end of the octets. -/
theorem run_consumes (ofClass : UInt8 → Bool) (octets : Octets) :
    octets = octets.takeWhile ofClass ++ octets.dropWhile ofClass :=
  List.takeWhile_append_dropWhile.symm

/-! ## Lines -/

theorem readLineEnd_steady (fault : HeadFault) : Steady (readLineEnd fault) := by
  intro octets more decided
  cases octets with
  | nil => exact absurd rfl decided
  | cons first rest =>
      simp only [readLineEnd, List.cons_append] at decided ⊢
      by_cases feed : first = lf
      · simp only [if_pos feed, followedBy]
      · simp only [if_neg feed] at decided ⊢
        by_cases carriage : first = cr
        · simp only [if_pos carriage] at decided ⊢
          cases rest with
          | nil => exact absurd rfl decided
          | cons second rest =>
              simp only [List.cons_append]
              by_cases feed' : second = lf
              · simp only [if_pos feed', followedBy]
              · simp only [if_neg feed', followedBy]
        · simp only [if_neg carriage, followedBy]

theorem readLineEnd_consumes (fault : HeadFault) : Consumes 1 (readLineEnd fault) := by
  intro octets part rest answer
  cases octets with
  | nil => cases answer
  | cons first after =>
      simp only [readLineEnd] at answer
      by_cases feed : first = lf
      · rw [if_pos feed] at answer
        cases answer
        exact ⟨[first], rfl, Nat.le_refl 1⟩
      · rw [if_neg feed] at answer
        by_cases carriage : first = cr
        · rw [if_pos carriage] at answer
          cases after with
          | nil => cases answer
          | cons second after =>
              by_cases feed' : second = lf
              · simp only [if_pos feed'] at answer
                cases answer
                exact ⟨[first, second], rfl, Nat.le_succ 1⟩
              · simp only [if_neg feed'] at answer
                cases answer
        · rw [if_neg carriage] at answer
          cases answer

theorem skipEmptyLines_lf (rest : Octets) : skipEmptyLines (lf :: rest) = skipEmptyLines rest := by
  rw [skipEmptyLines.eq_def]
  simp only [if_true]

theorem skipEmptyLines_cr (second : UInt8) (rest : Octets) :
    skipEmptyLines (cr :: second :: rest) =
      if second = lf then skipEmptyLines rest else .refused .newLine := by
  rw [skipEmptyLines, if_neg (by decide), if_pos rfl]

theorem skipEmptyLines_start {first : UInt8} (notFeed : first ≠ lf) (notCarriage : first ≠ cr)
    (rest : Octets) : skipEmptyLines (first :: rest) = .found () (first :: rest) := by
  rw [skipEmptyLines.eq_def]
  simp only [if_neg notFeed, if_neg notCarriage]

theorem skipEmptyLines_steady : Steady skipEmptyLines := by
  intro octets more decided
  fun_induction skipEmptyLines octets with
  | case1 => exact absurd rfl decided
  | case2 rest inductionHypothesis =>
      rw [List.cons_append, skipEmptyLines_lf]
      exact inductionHypothesis decided
  | case3 => exact absurd rfl decided
  | case4 _ rest inductionHypothesis =>
      rw [List.cons_append, List.cons_append, skipEmptyLines_cr, if_pos rfl]
      exact inductionHypothesis decided
  | case5 second _ notFeed =>
      rw [List.cons_append, List.cons_append, skipEmptyLines_cr, if_neg notFeed]
      rfl
  | case6 first rest notFeed notCarriage =>
      rw [List.cons_append, skipEmptyLines_start notFeed notCarriage]
      rfl

theorem skipEmptyLines_consumes : Consumes 0 skipEmptyLines := by
  intro octets part rest answer
  fun_induction skipEmptyLines octets with
  | case1 => cases answer
  | case2 after inductionHypothesis =>
      rcases inductionHypothesis answer with ⟨taken, split, long⟩
      exact ⟨lf :: taken, by rw [split]; rfl, Nat.zero_le _⟩
  | case3 notFeed => cases answer
  | case4 notFeed after inductionHypothesis =>
      rcases inductionHypothesis answer with ⟨taken, split, long⟩
      exact ⟨cr :: lf :: taken, by rw [split]; rfl, Nat.zero_le _⟩
  | case5 notFeed second after notFeed' => cases answer
  | case6 first after notFeed notCarriage =>
      cases answer
      exact ⟨[], rfl, Nat.zero_le _⟩

theorem readWord_steady (ofClass : UInt8 → Bool) : Steady (readWord ofClass) := by
  intro octets more decided
  unfold readWord at decided ⊢
  cases behind : octets.dropWhile ofClass with
  | nil =>
      simp only [behind] at decided
      exact absurd rfl decided
  | cons stop rest =>
      rcases run_append behind more with ⟨run, after⟩
      simp only [run, after]
      by_cases ended : (stop = space && !(octets.takeWhile ofClass).isEmpty) = true
      · simp only [if_pos ended]
        cases Octets.decode? (octets.takeWhile ofClass) with
        | none => rfl
        | some word => rfl
      · simp only [if_neg ended, followedBy]

theorem readWord_consumes (ofClass : UInt8 → Bool) : Consumes 1 (readWord ofClass) := by
  intro octets part rest answer
  unfold readWord at answer
  have whole := run_consumes ofClass octets
  cases behind : octets.dropWhile ofClass with
  | nil =>
      simp only [behind] at answer
      cases answer
  | cons stop after =>
      simp only [behind] at answer
      by_cases ended : (stop = space && !(octets.takeWhile ofClass).isEmpty) = true
      · simp only [if_pos ended] at answer
        cases decoded : Octets.decode? (octets.takeWhile ofClass) with
        | none =>
            simp only [decoded] at answer
            cases answer
        | some word =>
            simp only [decoded] at answer
            cases answer
            refine ⟨octets.takeWhile ofClass ++ [stop], ?_, ?_⟩
            · rw [behind] at whole
              rw [List.append_assoc]
              exact whole
            · simp only [List.length_append, List.length_singleton]
              exact Nat.le_add_left 1 _
      · simp only [if_neg ended] at answer
        cases answer

/-! ## Start lines -/

theorem spelling_begins (version : Version) : Octets.encode "HTTP/1." <+: version.spelling := by
  cases version with
  | http10 => exact ⟨[48], by decide⟩
  | http11 => exact ⟨[49], by decide⟩

theorem spelling_length (version : Version) : version.spelling.length = 8 := by
  cases version <;> decide

/-- Octets that do not begin a version are no version with others behind them either. -/
theorem take_ne_spelling {octets : Octets} (short : octets.length < 8)
    (other : ¬ octets <+: Octets.encode "HTTP/1.") (more : Octets) (version : Version) :
    (octets ++ more).take 8 ≠ version.spelling := by
  intro same
  apply other
  have begins : octets <+: version.spelling := by
    rw [← same]
    exact List.prefix_take_iff.mpr ⟨List.prefix_append octets more, Nat.le_of_lt short⟩
  refine List.prefix_of_prefix_length_le begins (spelling_begins version) ?_
  have length : (Octets.encode "HTTP/1.").length = 7 := by decide
  omega

theorem readVersion_steady : Steady readVersion := by
  intro octets more decided
  unfold readVersion at decided ⊢
  by_cases short : octets.length < 8
  · simp only [if_pos short] at decided ⊢
    by_cases begun : octets.isPrefixOf (Octets.encode "HTTP/1.") = true
    · rw [if_pos begun] at decided
      exact absurd rfl decided
    · have other : ¬ octets <+: Octets.encode "HTTP/1." := by
        rwa [List.isPrefixOf_iff_prefix] at begun
      have longer : ¬ (octets ++ more).isPrefixOf (Octets.encode "HTTP/1.") = true := by
        rw [List.isPrefixOf_iff_prefix]
        intro begins
        exact other ((List.prefix_append octets more).trans begins)
      rw [if_neg begun, if_neg longer, if_neg (take_ne_spelling short other more .http10),
        if_neg (take_ne_spelling short other more .http11), ite_self]
      rfl
  · have long : 8 ≤ octets.length := Nat.le_of_not_lt short
    have longer : ¬ (octets ++ more).length < 8 := by
      rw [List.length_append]
      omega
    have front : (octets ++ more).take 8 = octets.take 8 := List.take_append_of_le_length long
    have back : (octets ++ more).drop 8 = octets.drop 8 ++ more := List.drop_append_of_le_length long
    rw [if_neg short, if_neg longer, front, back]
    split
    · rfl
    · split <;> rfl

theorem readVersion_consumes : Consumes 8 readVersion := by
  intro octets part rest answer
  unfold readVersion at answer
  by_cases short : octets.length < 8
  · rw [if_pos short] at answer
    split at answer <;> cases answer
  · rw [if_neg short] at answer
    have split_ : octets = octets.take 8 ++ octets.drop 8 := (List.take_append_drop 8 octets).symm
    have long : 8 ≤ (octets.take 8).length := by
      rw [List.length_take]
      omega
    split at answer
    · cases answer
      exact ⟨octets.take 8, split_, long⟩
    · split at answer <;> cases answer
      exact ⟨octets.take 8, split_, long⟩

theorem readDigit_steady : Steady readDigit := by
  intro octets more decided
  cases octets with
  | nil => exact absurd rfl decided
  | cons octet rest =>
      simp only [readDigit, List.cons_append]
      split <;> rfl

theorem readCode_steady : Steady readCode :=
  readDigit_steady.andThen fun _ => readDigit_steady.andThen fun _ => readDigit_steady.map _

theorem readSpace_steady : Steady readSpace := by
  intro octets more decided
  cases octets with
  | nil => exact absurd rfl decided
  | cons octet rest =>
      simp only [readSpace, List.cons_append]
      split <;> rfl

theorem readReason_steady : Steady readReason := by
  intro octets more decided
  cases octets with
  | nil => exact absurd rfl decided
  | cons octet rest =>
      simp only [readReason, List.cons_append] at decided ⊢
      by_cases spaced : octet = space
      · simp only [if_pos spaced] at decided ⊢
        cases behind : rest.dropWhile isTextOctet with
        | nil =>
            rw [behind] at decided
            exact absurd rfl decided
        | cons stop after =>
            rw [behind] at decided
            rw [(run_append behind more).2]
            exact readLineEnd_steady .status (stop :: after) more decided
      · simp only [if_neg spaced] at decided ⊢
        exact readLineEnd_steady .status (octet :: rest) more decided

/-! ## Fields -/

theorem readField_steady : Steady readField := by
  intro octets more decided
  unfold readField at decided ⊢
  cases behindName : octets.dropWhile isTokenOctet with
  | nil =>
      simp only [behindName] at decided
      exact absurd rfl decided
  | cons stop rest =>
      rcases run_append behindName more with ⟨name, afterName⟩
      simp only [behindName, name, afterName] at decided ⊢
      by_cases named : (stop = colon && !(octets.takeWhile isTokenOctet).isEmpty) = true
      · simp only [if_pos named] at decided ⊢
        cases behindPadding : rest.dropWhile isPadding with
        | nil =>
            rw [behindPadding] at decided
            exact absurd rfl decided
        | cons first value =>
            rw [behindPadding] at decided
            rw [(run_append behindPadding more).2, ← List.cons_append]
            cases behindValue : (first :: value).dropWhile isTextOctet with
            | nil =>
                rw [behindValue] at decided
                exact absurd rfl decided
            | cons stop after =>
                rw [behindValue] at decided
                rcases run_append behindValue more with ⟨same, afterValue⟩
                rw [same, afterValue]
                exact (readLineEnd_steady .fieldValue).map _ (stop :: after) more decided
      · simp only [if_neg named, followedBy]

theorem readField_consumes : Consumes 1 readField := by
  intro octets part rest answer
  unfold readField at answer
  cases behindName : octets.dropWhile isTokenOctet with
  | nil =>
      simp only [behindName] at answer
      cases answer
  | cons stop after =>
      simp only [behindName] at answer
      by_cases named : (stop = colon && !(octets.takeWhile isTokenOctet).isEmpty) = true
      · simp only [if_pos named] at answer
        have wholeName := run_consumes isTokenOctet octets
        have wholePadding := run_consumes isPadding after
        have wholeValue := run_consumes isTextOctet (after.dropWhile isPadding)
        rcases (readLineEnd_consumes .fieldValue).map _ _ part rest answer with ⟨taken, split, long⟩
        refine ⟨octets.takeWhile isTokenOctet ++ stop :: (after.takeWhile isPadding ++
          ((after.dropWhile isPadding).takeWhile isTextOctet ++ taken)), ?_, ?_⟩
        · rw [List.append_assoc, List.cons_append, List.append_assoc, List.append_assoc, ← split,
            ← wholeValue, ← wholePadding, ← behindName]
          exact wholeName
        · rw [List.length_append, List.length_cons]
          omega
      · simp only [if_neg named] at answer
        cases answer

theorem readFields_end {first : UInt8} (ends : (first = lf || first = cr) = true) (slots : Nat)
    (rest : Octets) :
    readFields slots (first :: rest) =
      (readLineEnd .newLine (first :: rest)).map fun _ => [] := by
  rw [readFields.eq_def]
  exact if_pos ends

theorem readFields_full {first : UInt8} (goesOn : ¬ (first = lf || first = cr) = true)
    (rest : Octets) :
    readFields 0 (first :: rest) =
      (readField (first :: rest)).andThen fun _ _ => .refused .tooManyFields := by
  rw [readFields.eq_def]
  exact if_neg goesOn

theorem readFields_further {first : UInt8} (goesOn : ¬ (first = lf || first = cr) = true)
    (slots : Nat) (rest : Octets) :
    readFields (slots + 1) (first :: rest) =
      (readField (first :: rest)).andThen fun field rest =>
        (readFields slots rest).map (field :: ·) := by
  rw [readFields.eq_def]
  exact if_neg goesOn

theorem readFields_steady (slots : Nat) : Steady (readFields slots) := by
  have atEnd : Steady fun octets => (readLineEnd .newLine octets).map fun _ => ([] : List RawField) :=
    (readLineEnd_steady .newLine).map _
  induction slots with
  | zero =>
      intro octets more decided
      have line : Steady fun octets =>
          (readField octets).andThen fun _ _ => (.refused .tooManyFields : Scan (List RawField)) :=
        readField_steady.andThen fun _ _ _ _ => rfl
      cases octets with
      | nil =>
          rw [readFields] at decided
          exact absurd rfl decided
      | cons first rest =>
          by_cases ends : (first = lf || first = cr) = true
          · rw [readFields_end ends] at decided
            rw [List.cons_append, readFields_end ends, readFields_end ends]
            exact atEnd (first :: rest) more decided
          · rw [readFields_full ends] at decided
            rw [List.cons_append, readFields_full ends, readFields_full ends]
            exact line (first :: rest) more decided
  | succ slots inductionHypothesis =>
      intro octets more decided
      have line : Steady fun octets => (readField octets).andThen fun field rest =>
          (readFields slots rest).map (field :: ·) :=
        readField_steady.andThen fun field => inductionHypothesis.map (field :: ·)
      cases octets with
      | nil =>
          rw [readFields] at decided
          exact absurd rfl decided
      | cons first rest =>
          by_cases ends : (first = lf || first = cr) = true
          · rw [readFields_end ends] at decided
            rw [List.cons_append, readFields_end ends, readFields_end ends]
            exact atEnd (first :: rest) more decided
          · rw [readFields_further ends] at decided
            rw [List.cons_append, readFields_further ends, readFields_further ends]
            exact line (first :: rest) more decided

theorem readFields_consumes (slots : Nat) : Consumes 1 (readFields slots) := by
  have atEnd : Consumes 1 fun octets =>
      (readLineEnd .newLine octets).map fun _ => ([] : List RawField) :=
    (readLineEnd_consumes .newLine).map _
  induction slots with
  | zero =>
      intro octets part rest answer
      cases octets with
      | nil =>
          rw [readFields] at answer
          cases answer
      | cons first after =>
          by_cases ends : (first = lf || first = cr) = true
          · rw [readFields_end ends] at answer
            exact atEnd (first :: after) part rest answer
          · rw [readFields_full ends] at answer
            cases field : readField (first :: after) <;> rw [field] at answer <;> cases answer
  | succ slots inductionHypothesis =>
      intro octets part rest answer
      have line : Consumes 2 fun octets => (readField octets).andThen fun field rest =>
          (readFields slots rest).map (field :: ·) :=
        readField_consumes.andThen fun field => inductionHypothesis.map (field :: ·)
      cases octets with
      | nil =>
          rw [readFields] at answer
          cases answer
      | cons first after =>
          by_cases ends : (first = lf || first = cr) = true
          · rw [readFields_end ends] at answer
            exact atEnd (first :: after) part rest answer
          · rw [readFields_further ends] at answer
            exact line.weaken (by decide) (first :: after) part rest answer

/-! ## Heads -/

theorem readRequest_steady : Steady readRequest :=
  skipEmptyLines_steady.andThen fun _ =>
  (readWord_steady isTokenOctet).andThen fun _ =>
  (readWord_steady isTargetOctet).andThen fun _ =>
  readVersion_steady.andThen fun _ =>
  (readLineEnd_steady .newLine).andThen fun _ =>
  (readFields_steady maxFields).map _

theorem readRequest_consumes : Consumes 1 readRequest :=
  (skipEmptyLines_consumes.andThen fun _ =>
    (readWord_consumes isTokenOctet).andThen fun _ =>
    (readWord_consumes isTargetOctet).andThen fun _ =>
    readVersion_consumes.andThen fun _ =>
    (readLineEnd_consumes .newLine).andThen fun _ =>
    (readFields_consumes maxFields).map _).weaken (by decide)

theorem readResponse_steady : Steady readResponse :=
  skipEmptyLines_steady.andThen fun _ =>
  readVersion_steady.andThen fun _ =>
  readSpace_steady.andThen fun _ =>
  readCode_steady.andThen fun _ =>
  readReason_steady.andThen fun _ =>
  (readFields_steady maxFields).map _

end Head

/-! ## Messages -/

theorem Request.parse_of_found {octets rest : Octets} {head : Head.RequestHead}
    (answer : Head.readRequest octets = .found head rest) :
    Request.parse octets = .ok (Request.ofHead head rest, octets.length - rest.length) := by
  unfold Request.parse
  rw [answer]

/-- A request that was read is the head at the front, and its body is everything behind the head. -/
theorem Request.found_of_parse {octets : Octets} {request : Request} {offset : Nat}
    (parsed : Request.parse octets = .ok (request, offset)) :
    ∃ head, Head.readRequest octets = .found head (octets.drop offset) ∧
      request = Request.ofHead head (octets.drop offset) ∧ 0 < offset ∧ offset ≤ octets.length := by
  unfold Request.parse at parsed
  cases answer : Head.readRequest octets with
  | needMore => simp only [answer, reduceCtorEq] at parsed
  | refused fault => simp only [answer, reduceCtorEq] at parsed
  | found head rest =>
      simp only [answer, Except.ok.injEq, Prod.mk.injEq] at parsed
      rcases Head.readRequest_consumes octets head rest answer with ⟨taken, split, long⟩
      have place : offset = taken.length := by
        rw [← parsed.2, split, List.length_append, Nat.add_sub_cancel]
      have behind : octets.drop offset = rest := by
        rw [place, split, List.drop_left]
      refine ⟨head, by rw [behind], by rw [behind]; exact parsed.1.symm, by omega, ?_⟩
      rw [split, List.length_append]
      omega

/-- A request that was read is read again when more octets stand behind it. -/
theorem Request.parse_append {octets : Octets} {request : Request} {offset : Nat}
    (parsed : Request.parse octets = .ok (request, offset)) (more : Octets) :
    Request.parse (octets ++ more) =
      .ok ({ request with body := request.body ++ more }, offset) := by
  rcases Request.found_of_parse parsed with ⟨head, found, same, _, within⟩
  have longer := Head.readRequest_steady octets more
    (by rw [found]; intro impossible; cases impossible)
  rw [found] at longer
  rw [Request.parse_of_found longer, same]
  have place : (octets ++ more).length - (octets.drop offset ++ more).length = offset := by
    simp only [List.length_append, List.length_drop]
    omega
  rw [place]
  rfl

/-- A request that was refused is refused again when more octets stand behind it. -/
theorem Request.parse_append_refused {octets : Octets} {fault : RequestFault}
    (parsed : Request.parse octets = .error fault) (decided : fault ≠ .incomplete) (more : Octets) :
    Request.parse (octets ++ more) = .error fault := by
  unfold Request.parse at parsed ⊢
  cases answer : Head.readRequest octets with
  | needMore =>
      simp only [answer, Except.error.injEq] at parsed
      exact absurd parsed.symm decided
  | found head rest => simp only [answer, reduceCtorEq] at parsed
  | refused reason =>
      have longer := Head.readRequest_steady octets more
        (by rw [answer]; intro impossible; cases impossible)
      rw [longer, answer]
      rw [answer] at parsed
      exact parsed

/-- What was made of the front of a stream is made of it again when more octets stand behind. -/
theorem Response.parse_append {octets : Octets} (decided : Response.parse octets ≠ .error .incomplete)
    (more : Octets) : Response.parse (octets ++ more) = Response.parse octets := by
  have answered : Head.readResponse octets ≠ .needMore := by
    intro undecided
    apply decided
    unfold Response.parse
    rw [undecided]
  have longer := Head.readResponse_steady octets more answered
  unfold Response.parse
  cases answer : Head.readResponse octets with
  | needMore => exact absurd answer answered
  | refused fault =>
      rw [longer, answer]
      rfl
  | found head rest =>
      rw [longer, answer]
      simp only [Scan.followedBy, List.length_append, Nat.add_sub_add_right]

/-- A complete head stays the head when more octets arrive. -/
theorem Response.parse_append_ok {octets : Octets} {head : Response} {offset : Nat}
    (parsed : Response.parse octets = .ok (head, offset)) (more : Octets) :
    Response.parse (octets ++ more) = .ok (head, offset) := by
  have decided : Response.parse octets ≠ .error .incomplete := by
    rw [parsed]
    intro same
    cases same
  exact (Response.parse_append decided more).trans parsed

theorem Response.offset_le_of_parse {octets : Octets} {head : Response} {offset : Nat}
    (parsed : Response.parse octets = .ok (head, offset)) : offset ≤ octets.length := by
  unfold Response.parse at parsed
  split at parsed
  · cases parsed
    exact Nat.sub_le _ _
  · cases parsed
  · cases parsed

end PromiseHttp
