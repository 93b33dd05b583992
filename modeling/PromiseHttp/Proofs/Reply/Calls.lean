import PromiseHttp.Proofs.Http.ResponseWire
import PromiseHttp.Reply.Handler

namespace PromiseHttp

/-!
# What the calls of a handler put on the wire

A handler may add fields to its response, and it may bring a response of its own with a status and
fields.  A call is fit if these can be sent.  Whatever a fit call ends with, its reply can be put on
the wire, and the reply says what the writer was told about the connection: neither the fields of
the handler nor its response have a say in that.
-/

namespace WriterEnding

/-- The status that the handler has chosen, if it has. -/
def status? : WriterEnding → Option Status
  | .send status _ => some status
  | .sendResponse response => some response.status
  | .serveFile _ => none
  | .fail _ => none
  | .letGo => none

/-- The fields that come with a response of the handler's own. -/
def ownFields : WriterEnding → List Field
  | .sendResponse response => response.headers.toList
  | .send _ _ => []
  | .serveFile _ => []
  | .fail _ => []
  | .letGo => []

end WriterEnding

namespace Reply

/-- A reply whose head has no more lines than the other side reads. -/
def HasFewLines : Outcome Reply → Prop
  | .ok (.message response) =>
    (response.typed.sentFields response.body.length).length ≤ Head.maxFields
  | .ok (.file response _) => ∀ length, (response.sentFields length).length ≤ Head.maxFields
  | .error _ => True

/-- A reply that can be put on the wire, for a connection that is kept or closed after it. -/
def CanBeSent (keepAlive : Bool) : Outcome Reply → Prop
  | .ok (.message response) => response.Sendable ∧ response.keepAlive = keepAlive
  | .ok (.file response _) =>
    (∀ length, response.HeadSendable length) ∧ response.keepAlive = keepAlive
  | .error _ => True

end Reply

/-! ## Media types -/

namespace MediaType

/-- A media type can be sent as the value of a field. -/
theorem isField_ofPath (path : String) : Head.IsField ("Content-Type", ofPath path) := by
  have all : ∀ entry ∈ known, Head.IsField ("Content-Type", entry.2) := by decide
  have other : Head.IsField ("Content-Type", unknown) := by decide
  unfold ofPath
  split
  · rename_i extension _
    cases found : known.lookup (Text.lower extension) with
    | none => exact other
    | some value =>
        have member : (Text.lower extension, value) ∈ known := by
          rcases List.lookup_eq_some_iff.mp found with ⟨before, after, split, _⟩
          rw [split]
          exact List.mem_append_right before List.mem_cons_self
        exact all _ member
  · exact other

end MediaType

namespace ResponseWriter

/-- A writer for a file may add the media type of the file, and nothing else. -/
theorem typedFor_eq (keepAlive : Bool) (fields : List Field) (path : String) :
    ∃ typed, typedFor ⟨keepAlive, ⟨fields⟩, true⟩ path = ⟨keepAlive, ⟨typed⟩, true⟩ ∧
      ∀ field ∈ typed, field ∈ fields ∨ field = ("Content-Type", MediaType.ofPath path) := by
  unfold typedFor
  split
  · exact ⟨fields, rfl, fun field member => Or.inl member⟩
  · refine ⟨fields ++ [("Content-Type", MediaType.ofPath path)], rfl, ?_⟩
    intro field member
    rcases List.mem_append.mp member with own | supplied
    · exact Or.inl own
    · exact Or.inr (List.mem_singleton.mp supplied)

end ResponseWriter

namespace HandlerCall

theorem addAll_eq (keepAlive : Bool) (fields : List Field) :
    (ResponseWriter.new keepAlive).addAll fields = ⟨keepAlive, ⟨fields⟩, true⟩ := by
  have added : ∀ before : List Field,
      ResponseWriter.addAll ⟨keepAlive, ⟨before⟩, true⟩ fields =
        ⟨keepAlive, ⟨before ++ fields⟩, true⟩ := by
    induction fields with
    | nil =>
        intro before
        rw [List.append_nil]
        rfl
    | cons field fields inductionHypothesis =>
        intro before
        have further := inductionHypothesis (before ++ [field])
        rw [List.append_assoc, List.cons_append, List.nil_append] at further
        exact further
  exact added []

/-- A call whose status and fields can be sent. -/
structure IsFit (call : HandlerCall) : Prop where
  status : ∀ status, call.ending.status? = some status → 100 ≤ status.code ∧ status.code ≤ 999
  fields : ∀ field ∈ call.ending.ownFields ++ call.fields, Head.IsField field
  few : ∀ keepAlive, Reply.HasFewLines (call.reply keepAlive)

/-- The reply of a fit call can be put on the wire. -/
theorem IsFit.canBeSent {call : HandlerCall} (fit : call.IsFit) (keepAlive : Bool) :
    Reply.CanBeSent keepAlive (call.reply keepAlive) := by
  have few := fit.few keepAlive
  have status := fit.status
  have fields := fit.fields
  rw [reply_eq, addAll_eq] at few ⊢
  cases ending : call.ending with
  | send code text =>
      simp only [ending, WriterEnding.status?, WriterEnding.ownFields, List.nil_append] at status fields
      simp only [ending] at few ⊢
      rcases status code rfl with ⟨least, most⟩
      exact ⟨⟨least, most, fields, few⟩, rfl⟩
  | sendResponse response =>
      simp only [ending, WriterEnding.status?, WriterEnding.ownFields] at status fields
      simp only [ending] at few ⊢
      rcases status response.status rfl with ⟨least, most⟩
      exact ⟨⟨least, most, fields, few⟩, rfl⟩
  | serveFile path =>
      simp only [ending, WriterEnding.ownFields, List.nil_append] at fields
      simp only [ending] at few ⊢
      rcases ResponseWriter.typedFor_eq keepAlive call.fields path with ⟨typed, same, origin⟩
      rw [ResponseWriter.reply, same] at few ⊢
      refine ⟨fun length => ⟨(by decide : 100 ≤ Status.ok.code), (by decide : Status.ok.code ≤ 999), ?_,
        few length⟩, rfl⟩
      intro field member
      rcases origin field member with own | rfl
      · exact fields field own
      · exact MediaType.isField_ofPath path
  | fail reason => trivial
  | letGo => trivial

end HandlerCall
end PromiseHttp
