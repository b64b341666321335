import PullRelay.Client.Call
import PullRelay.Proofs.Room
import PullRelay.Record.Resources

/-!
# Rows that cannot be converted

A row of a payload may be of no use for two kinds of reasons.  Most are the fault of the payload,
which is malformed then.  But where a text stands too deep inside a row, or a number of lines is
infinite, the fault is one that no payload is blamed for, and it breaks off the work that reads
the row.  `ChangedFile.breaks_iff` and `PermissionLevel.breaks_iff` say which rows do that:
what is wrong with the fields before the one that breaks would have been found first.
-/

namespace PullRelay

variable {room : Room} {row : List (String × Value)} {fault : Fault}

/-- The only fault of reading a whole number that the payload is not blamed for is that of an
infinite one. -/
theorem Value.toInt_error {v : Value} (h : v.toInt = .error fault) :
    fault.blamesPayload = true ∨
      fault = .integerFromInfinity ∧ ∃ negative, v = .real (.infinite negative) := by
  unfold Value.toInt at h
  repeat' split at h
  all_goals cases h
  all_goals first
    | exact .inl rfl
    | exact .inr ⟨rfl, _, rfl⟩

/-- A text that is not there is too long, for which the payload is blamed, or too deep. -/
theorem Record.rowText_error {n : Nat} {key default : String}
    (h : rowText n row key default = .error fault) :
    fault.blamesPayload = true ∨ fault = .shownTooDeeply := by
  cases Value.cause_of_textWithin h with
  | tooDeep => exact .inr rfl
  | tooLong => exact .inl rfl

namespace ChangedFile

/-- A field of a row holds an infinite number. -/
def IsInfinite (row : List (String × Value)) (key : String) : Prop :=
  ∃ negative, Record.rowField row key (.int 0) = .real (.infinite negative)

/-- The row of a file breaks off the reading of its page: the first of its fields that cannot
be converted is a text that is too deep, or an infinite number of lines. -/
inductive Breaks (room : Room) (row : List (String × Value)) : Fault → Prop
  | name (h : Record.rowText room.file row "filename" "" = .error .shownTooDeeply) :
    Breaks room row .shownTooDeeply
  | status {name} (hname : Record.rowText room.file row "filename" "" = .ok name)
      (h : Record.rowText room.file row "status" "" = .error .shownTooDeeply) :
    Breaks room row .shownTooDeeply
  | additions {name status} (hname : Record.rowText room.file row "filename" "" = .ok name)
      (hstatus : Record.rowText room.file row "status" "" = .ok status)
      (h : IsInfinite row "additions") :
    Breaks room row .integerFromInfinity
  | deletions {name status additions}
      (hname : Record.rowText room.file row "filename" "" = .ok name)
      (hstatus : Record.rowText room.file row "status" "" = .ok status)
      (hadditions : count row "additions" = .ok additions) (h : IsInfinite row "deletions") :
    Breaks room row .integerFromInfinity

theorem count_error {key : String} (h : count row key = .error fault) :
    fault.blamesPayload = true ∨ fault = .integerFromInfinity ∧ IsInfinite row key := by
  simp only [count] at h
  split at h
  · exact Value.toInt_error h
  · cases h

theorem count_of_isInfinite {key : String} (h : IsInfinite row key) :
    count row key = .error .integerFromInfinity := by
  obtain ⟨negative, hn⟩ := h
  rw [count, hn]
  rfl

theorem read_of_texts {name status : String}
    (hname : Record.rowText room.file row "filename" "" = .ok name)
    (hstatus : Record.rowText room.file row "status" "" = .ok status) :
    read room row = ofRow row := by
  rw [read, hname, hstatus]
  rfl

/-- Only a row that breaks stops with a fault that the payload is not blamed for. -/
theorem breaks_iff :
    Breaks room row fault ↔ read room row = .error fault ∧ fault.blamesPayload = false := by
  constructor
  · intro h
    cases h with
    | name h => exact ⟨by rw [read, h]; rfl, rfl⟩
    | status hname h => exact ⟨by rw [read, hname, h]; rfl, rfl⟩
    | additions hname hstatus h =>
      refine ⟨?_, rfl⟩
      rw [read_of_texts hname hstatus, ofRow, count_of_isInfinite h]
      rfl
    | deletions hname hstatus hadditions h =>
      refine ⟨?_, rfl⟩
      rw [read_of_texts hname hstatus, ofRow, hadditions, count_of_isInfinite h]
      rfl
  · rintro ⟨h, hblame⟩
    obtain hname | ⟨name, hname, h⟩ := Except.eq_error_of_bind h
    · obtain hblamed | rfl := Record.rowText_error hname
      · cases hblame.symm.trans hblamed
      · exact .name hname
    obtain hstatus | ⟨status, hstatus, h⟩ := Except.eq_error_of_bind h
    · obtain hblamed | rfl := Record.rowText_error hstatus
      · cases hblame.symm.trans hblamed
      · exact .status hname hstatus
    obtain hadditions | ⟨additions, hadditions, h⟩ := Except.eq_error_of_bind h
    · obtain hblamed | ⟨rfl, hinfinite⟩ := count_error hadditions
      · cases hblame.symm.trans hblamed
      · exact .additions hname hstatus hinfinite
    obtain hdeletions | ⟨deletions, -, h⟩ := Except.eq_error_of_bind h
    · obtain hblamed | ⟨rfl, hinfinite⟩ := count_error hdeletions
      · cases hblame.symm.trans hblamed
      · exact .deletions hname hstatus hadditions hinfinite
    · cases h

end ChangedFile

namespace PermissionLevel

/-- The row of a permission breaks off its call: there is no text of the login of its user, or
none of the permission itself. -/
inductive Breaks (room : Room) (row : List (String × Value)) (fault : Fault) : Prop
  | login {user} (huser : Value.field? "user" row = some (.object user))
      (h : Record.rowText room.permission user "login" "" = .error fault)
  | permission
      (hlogin : ∀ user, Value.field? "user" row = some (.object user) →
        ∃ name, Record.rowText room.permission user "login" "" = .ok name)
      (h : Record.rowText room.permission row "permission" "none" = .error fault)

theorem login_eq_error_iff {n : Nat} : login n row = .error fault ↔
    ∃ user, Value.field? "user" row = some (.object user) ∧
      Record.rowText n user "login" "" = .error fault := by
  unfold login
  constructor
  · intro h
    split at h
    next user huser => exact ⟨user, huser, h⟩
    · cases h
  · rintro ⟨user, huser, h⟩
    rw [huser]
    exact h

theorem exists_login_iff {n : Nat} : (∃ name, login n row = .ok name) ↔
    ∀ user, Value.field? "user" row = some (.object user) →
      ∃ name, Record.rowText n user "login" "" = .ok name := by
  unfold login
  constructor
  · rintro h user huser
    rwa [huser] at h
  · intro h
    split
    next user huser => exact h user huser
    · exact ⟨"", rfl⟩

theorem breaks_iff : Breaks room row fault ↔ read room row = .error fault := by
  constructor
  · intro h
    cases h with
    | login huser h =>
      rw [read, login_eq_error_iff.mpr ⟨_, huser, h⟩]
      rfl
    | permission hlogin h =>
      obtain ⟨name, hlogin⟩ := exists_login_iff.mpr hlogin
      rw [read, hlogin, h]
      rfl
  · intro h
    obtain hlogin | ⟨name, hlogin, h⟩ := Except.eq_error_of_bind h
    · obtain ⟨user, huser, hlogin⟩ := login_eq_error_iff.mp hlogin
      exact .login huser hlogin
    obtain hpermission | ⟨_, -, h⟩ := Except.eq_error_of_bind h
    · exact .permission (exists_login_iff.mp ⟨name, hlogin⟩) hpermission
    · cases h

/-- A row without fields has its default texts. -/
theorem not_breaks_nil : ¬Breaks room [] fault := by
  rw [breaks_iff]
  nofun

end PermissionLevel

end PullRelay
