import PullRelay.Proofs.Pipeline.Additions
import PullRelay.Proofs.Record.Assignments

/-!
# Commit statuses

What is sent for a commit status is what its fields hold at the time.  A status is not frozen as
issues and commits are, so this is valid just if every field was last set to a value that suits
it (`CommitStatus.payload_after_assign`).
-/

namespace PullRelay.CommitStatus

open Record

/-! ## Valid payloads -/

/-- The value may stand in the field when it is sent, or is left out then. -/
def Suits (name : String) (v : Value) : Prop :=
  if name = "state" then ∃ s ∈ states, v = .text s
  else if name = "context" then ∃ s, s ≠ "" ∧ v = .text s
  else v.isTruthy = true → ∃ s, v = .text s

/-- What a server takes for a status. -/
structure IsValid (payload : List (String × Value)) : Prop where
  state : ∃ s ∈ states, Value.field? "state" payload = some (.text s)
  context : ∃ s, s ≠ "" ∧ Value.field? "context" payload = some (.text s)
  description : ∀ v, Value.field? "description" payload = some v → ∃ s, v = .text s
  targetUrl : ∀ v, Value.field? "target_url" payload = some v → ∃ s, v = .text s

section Suits

variable {v : Value}

theorem suits_state : Suits "state" v ↔ ∃ s ∈ states, v = .text s := Iff.rfl

theorem suits_context : Suits "context" v ↔ ∃ s, s ≠ "" ∧ v = .text s := Iff.rfl

theorem suits_description : Suits "description" v ↔ (v.isTruthy = true → ∃ s, v = .text s) :=
  Iff.rfl

theorem suits_targetUrl : Suits "target_url" v ↔ (v.isTruthy = true → ∃ s, v = .text s) :=
  Iff.rfl

end Suits

section Payload

variable (st : CommitStatus)

theorem field?_payload :
    Value.field? "state" st.payload = some st.state ∧
    Value.field? "context" st.payload = some st.context ∧
    (Value.field? "description" st.payload =
      if st.description.isTruthy then some st.description else none) ∧
    Value.field? "target_url" st.payload =
      if st.targetUrl.isTruthy then some st.targetUrl else none := by
  unfold payload
  cases st.description.isTruthy <;> cases st.targetUrl.isTruthy <;> simp [Value.field?]

/-- The payload is valid just if every field holds what suits it. -/
theorem isValid_payload_iff : IsValid st.payload ↔ Suits "state" st.state ∧
    Suits "context" st.context ∧ Suits "description" st.description ∧
    Suits "target_url" st.targetUrl := by
  obtain ⟨hstate, hcontext, hdescription, htargetUrl⟩ := st.field?_payload
  have hoptional (v : Value) : (v.isTruthy = true → ∃ s, v = .text s) ↔
      ∀ w, (if v.isTruthy then some v else none) = some w → ∃ s, w = .text s := by
    cases v.isTruthy <;> simp
  rw [suits_state, suits_context, suits_description, suits_targetUrl, hoptional, hoptional,
    ← hdescription, ← htargetUrl]
  constructor
  · rintro ⟨⟨s, hs, hst⟩, ⟨c, hc, hct⟩, hd, ht⟩
    exact ⟨⟨s, hs, Option.some.inj (hstate.symm.trans hst)⟩,
      ⟨c, hc, Option.some.inj (hcontext.symm.trans hct)⟩, hd, ht⟩
  · rintro ⟨⟨s, hs, hst⟩, ⟨c, hc, hct⟩, hd, ht⟩
    exact ⟨⟨s, hs, hstate.trans (congrArg some hst)⟩, ⟨c, hc, hcontext.trans (congrArg some hct)⟩,
      hd, ht⟩

end Payload

/-! ## Statuses that have been built -/

theorem isSound_schema : schema.IsSound where
  nodup := by decide
  admits_default := by
    simp only [schema, List.forall_mem_cons]
    refine ⟨nofun, nofun, ?_, ?_, nofun⟩
    all_goals
      rintro _ ⟨⟩
      exact .text (Nat.zero_le _)

/-- What obeys the rule of a field suits it. -/
theorem suits_of_admits {f : Field} (hf : f ∈ schema.fields) {v : Value}
    (h : f.rule.Admits v) : Suits f.name v := by
  have hall : ∀ f ∈ schema.fields, f.rule.Admits v → Suits f.name v := by
    simp only [schema, List.forall_mem_cons]
    refine ⟨?_, ?_, ?_, ?_, nofun⟩
    · rintro ⟨⟩
      exact ⟨_, ‹_›, rfl⟩
    · rintro (⟨hlength⟩)
      refine ⟨_, ?_, rfl⟩
      rintro rfl
      cases hlength
    · rintro ⟨⟩ -
      exact ⟨_, rfl⟩
    · rintro ⟨⟩ -
      exact ⟨_, rfl⟩
  exact hall f hf h

section Build

variable {given built : List (String × Value)}

/-- Where a status is looked up, there is what suits it. -/
theorem fits_of_build (h : schema.build given = .ok built) :
    schema.FitsStanding Suits { table := built } where
  table f hf v hv := by
    obtain ⟨w, hw, hadmits⟩ := Schema.admits_of_build isSound_schema h f hf
    cases hv.symm.trans hw
    exact suits_of_admits hf hadmits
  surplus := nofun

theorem ofStanding_eq_ok_iff {r : Standing} {st : CommitStatus} :
    ofStanding r = .ok st ↔ r.member schema.name "state" = .ok st.state ∧
      r.member schema.name "context" = .ok st.context ∧
      r.member schema.name "description" = .ok st.description ∧
      r.member schema.name "target_url" = .ok st.targetUrl := by
  simp only [ofStanding, Except.bind_eq_ok_iff]
  constructor
  · rintro ⟨state, hstate, context, hcontext, description, hdescription, targetUrl, htargetUrl, h⟩
    cases h
    exact ⟨hstate, hcontext, hdescription, htargetUrl⟩
  · rintro ⟨hstate, hcontext, hdescription, htargetUrl⟩
    exact ⟨_, hstate, _, hcontext, _, hdescription, _, htargetUrl, rfl⟩

end Build

/-! ## Statuses that have been changed -/

section Assign

variable {given built : List (String × Value)} {changes : List (String × Value)} {books : Books}

/-- Whatever else is done, a payload stays valid if only suitable values are put where fields are
looked up. -/
theorem isValid_after_assign (h : schema.build given = .ok built)
    (hputs : ∀ change ∈ changes, schema.Puts books Suits change) {st : CommitStatus}
    (hst : ofStanding (schema.assign books changes { table := built }) = .ok st) :
    IsValid st.payload := by
  have hfits := Schema.fits_assign (fits_of_build h) hputs
  obtain ⟨hstate, hcontext, hdescription, htargetUrl⟩ := ofStanding_eq_ok_iff.mp hst
  have hmember {name : String} {v : Value} (hname : ∃ f ∈ schema.fields, f.name = name)
      (hv : (schema.assign books changes { table := built }).member schema.name name = .ok v) :
      Suits name v := by
    obtain ⟨f, hf, rfl⟩ := hname
    exact hfits.member hf hv
  exact st.isValid_payload_iff.mpr ⟨hmember (by simp [schema]) hstate,
    hmember (by simp [schema]) hcontext, hmember (by simp [schema]) hdescription,
    hmember (by simp [schema]) htargetUrl⟩

/-- Under plain names, a status always has a payload, and it is valid just if every field that
was set was last set to what suits it. -/
theorem isValid_after_plain_iff (h : schema.build given = .ok built) (hbooks : books.AreHidden)
    (hchanges : ∀ change ∈ changes, ¬IsHidden change.1) :
    ∃ st, ofStanding (schema.assign books changes { table := built }) = .ok st ∧
      (IsValid st.payload ↔ ∀ f ∈ schema.fields, ∀ v,
        Value.field? f.name changes.reverse = some v → Suits f.name v) := by
  have hplain : ∀ f ∈ schema.fields, ¬IsHidden f.name ∧ schema.settable f.name = true := by
    decide
  have hsetters : Value.field? books.setters built = none :=
    Schema.field?_build_eq_none h fun f hf ↦
      Schema.ne_of_isHidden (hplain f hf).1 hbooks.setters
  have hassign : schema.assign books changes { table := built } = _ :=
    Schema.assign_of_plain hbooks hchanges hsetters
  have hlast : ∀ f ∈ schema.fields, ∃ w,
      (schema.assign books changes { table := built }).member schema.name f.name = .ok w ∧
      (Suits f.name w ↔ ∀ v, Value.field? f.name changes.reverse = some v → Suits f.name v) := by
    intro f hf
    obtain ⟨v, hv, hadmits⟩ := Schema.admits_of_build isSound_schema h f hf
    have hfield := schema.field?_overwrite f.name changes built
    rw [if_pos (hplain f hf).2, hv] at hfield
    rw [hassign, Standing.member, hfield]
    cases Value.field? f.name changes.reverse with
    | none => exact ⟨v, rfl, fun _ ↦ nofun, fun _ ↦ suits_of_admits hf hadmits⟩
    | some w => exact ⟨w, rfl, fun hw _ hsome ↦ Option.some.inj hsome ▸ hw, fun hw ↦ hw w rfl⟩
  simp only [schema, List.forall_mem_cons] at hlast
  obtain ⟨⟨state, hstate, hstateIff⟩, ⟨context, hcontext, hcontextIff⟩,
    ⟨description, hdescription, hdescriptionIff⟩, ⟨targetUrl, htargetUrl, htargetUrlIff⟩, -⟩ :=
    hlast
  refine ⟨⟨state, context, description, targetUrl⟩,
    ofStanding_eq_ok_iff.mpr ⟨hstate, hcontext, hdescription, htargetUrl⟩, ?_⟩
  rw [isValid_payload_iff, hstateIff, hcontextIff, hdescriptionIff, htargetUrlIff]
  simp [schema]

end Assign

/-- A status that has been built keeps a valid payload for as long as only suitable values are put
where its fields are looked up.  Under plain names it always has a payload, which is valid just if
every field that was set was last set to what suits it.  The payload is the body of what is sent
to create the status. -/
theorem payload_after_assign {given built : List (String × Value)}
    (h : schema.build given = .ok built) (books : Books) (changes : List (String × Value)) :
    ((∀ change ∈ changes, schema.Puts books Suits change) → ∀ st,
      ofStanding (schema.assign books changes { table := built }) = .ok st →
        IsValid st.payload) ∧
    (books.AreHidden → (∀ change ∈ changes, ¬IsHidden change.1) → ∃ st,
      ofStanding (schema.assign books changes { table := built }) = .ok st ∧
        (IsValid st.payload ↔ ∀ f ∈ schema.fields, ∀ v,
          Value.field? f.name changes.reverse = some v → Suits f.name v)) ∧
    ∀ st, ofStanding (schema.assign books changes { table := built }) = .ok st →
      ∀ {σ : Type} (target : Change),
        (∀ (c : Client σ) page state, ∃ r, r.body = .object st.payload ∧
          (c.unit (Operation.createStatus target st).call page state).2.world.trace =
            state.world.trace ++ [.requested r]) ∧
        ∀ (t : Transport σ) s fuel (w : World σ), w.Extends
          (fun e ↦ ∀ r ∈ e.request?, r = QuotaSnapshot.request ∨ r.body = .object st.payload)
          ((Client.standard t s).run fuel (.createStatus target st) w).2 := by
  refine ⟨fun hputs st hst ↦ isValid_after_assign h hputs hst,
    fun hbooks hchanges ↦ isValid_after_plain_iff h hbooks hchanges,
    fun st _ σ target ↦ ⟨fun c page state ↦ ?_, fun t s fuel w ↦ ?_⟩⟩
  · obtain ⟨r, hr, htrace⟩ := c.exists_request_unit (.createStatus target st) page state
    exact ⟨r, hr.body_eq, htrace⟩
  · refine (Client.requests_standard_run t s (.createStatus target st) fuel w).mono
      fun e he r hr ↦ ?_
    exact (he r hr).imp_right (·.body_eq)

/-- Books with names that begin with an underscore. -/
def underscored : Books :=
  ⟨"__extra__", "__private__", "__fields_set__", "__setattr_handlers__", "__generic_metadata__"⟩

/-- A state that is wrong at first and right at last is sent as it should be. -/
theorem payload_after_corrections : ∃ built st,
    schema.build [("state", .text "pending"), ("context", .text "ci")] = .ok built ∧
    ofStanding (schema.assign underscored [("state", .text "bogus"), ("unknown", .null),
      ("description", .text "done"), ("state", .text "success")] { table := built }) = .ok st ∧
    IsValid st.payload := by
  have h : schema.build [("state", .text "pending"), ("context", .text "ci")] =
      .ok [("state", .text "pending"), ("context", .text "ci"), ("description", .text ""),
        ("target_url", .text "")] := by rfl
  obtain ⟨-, hplain, -⟩ := payload_after_assign h underscored [("state", .text "bogus"),
    ("unknown", .null), ("description", .text "done"), ("state", .text "success")]
  have hbooks : underscored.AreHidden := ⟨by decide, by decide, by decide, by decide⟩
  obtain ⟨st, hst, hiff⟩ := hplain hbooks (by decide)
  refine ⟨_, st, h, hst, hiff.mpr ?_⟩
  simp only [schema, List.forall_mem_cons]
  refine ⟨?_, nofun, ?_, nofun, nofun⟩
  · rintro _ ⟨⟩
    exact ⟨"success", by decide, rfl⟩
  · rintro _ ⟨⟩ -
    exact ⟨"done", rfl⟩

/-- What a state is set to is sent, whether it is one or not. -/
theorem payload_after_assign_not_valid : ¬∀ given built books changes st,
    schema.build given = .ok built →
    ofStanding (schema.assign books changes { table := built }) = .ok st →
      IsValid st.payload := by
  intro h
  have hvalid := h [("state", .text "success"), ("context", .text "ci")] _ underscored
    [("state", .text "bogus")] ⟨.text "bogus", .text "ci", .text "", .text ""⟩ rfl rfl
  obtain ⟨s, hs, hstate⟩ := hvalid.state
  cases hstate
  exact absurd hs (by decide)

end PullRelay.CommitStatus
