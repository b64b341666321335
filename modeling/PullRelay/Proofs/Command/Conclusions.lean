import PullRelay.Command.Run
import PullRelay.Proofs.Client.Effort
import PullRelay.Proofs.Except
import PullRelay.Transport.Routes

/-!
# How command lines end

A command line that can be read prints one document, or one line that says why it does not: the
settings cannot be used, or a failure of the pipeline stopped the command
(`CommandLine.ends_unless_slips`).  There are two ways past that.  The command that shows the
settings reads them where nothing reports what is wrong with them, and the command that lists
comments makes its issue before anything else, and an issue has a number from one on.  What is
raised there passes through the command (`Command.slip?`).  A document can also be too deep for the
room that is left to print it, or hold a number with too many digits (`Command.LacksRoom`).

Settings from an environment can always be used to build a client (`Client.ofEnv_eq`), so that
there is no third way.
-/

namespace PullRelay

variable {σ : Type}

/-! ## Settings of an environment -/

namespace Environment

variable {env : Environment} {name : String}

theorem le_of_whole {default least n : Int} (h : env.whole name default (some least) = .ok n)
    (hdefault : least ≤ default) : least ≤ n := by
  unfold whole at h
  split at h
  · cases h
    exact hdefault
  next given _ =>
    cases hread : Numeral.readInt given with
    | error _ => simp [hread] at h
    | ok m =>
      by_cases hm : m < least
      · simp [hread, hm] at h
      · simp only [hread, if_neg hm, Except.ok.injEq] at h
        omega

theorem belowInt_of_real {default x : Binary64} (h : env.real name default = .ok x)
    (hdefault : default.belowInt 0 = false) : x.belowInt 0 = false := by
  unfold real at h
  split at h
  · cases h
    exact hdefault
  next given _ =>
    split at h
    · cases h
    next y _ =>
      by_cases hy : y.belowInt 0 = true
      · simp [hy] at h
      · simp only [hy, Bool.false_eq_true, if_false, Except.ok.injEq] at h
        rw [← h]
        exact Bool.eq_false_iff.mpr hy

end Environment

/-- The pause of settings is not below zero, and their bound is not zero. -/
theorem Settings.ofEnv_usable {env : Environment} {s : Settings} (h : ofEnv env = .ok s) :
    s.retryDelay.belowInt 0 = false ∧ s.maxPages ≠ some 0 := by
  unfold ofEnv at h
  obtain ⟨maxPages, hpages, h⟩ := Except.exists_of_bind_eq_ok h
  obtain ⟨_, -, h⟩ := Except.exists_of_bind_eq_ok h
  obtain ⟨delay, hdelay, h⟩ := Except.exists_of_bind_eq_ok h
  obtain ⟨_, -, h⟩ := Except.exists_of_bind_eq_ok h
  obtain ⟨_, -, h⟩ := Except.exists_of_bind_eq_ok h
  obtain ⟨_, -, h⟩ := Except.exists_of_bind_eq_ok h
  obtain rfl := Except.ok.inj h
  refine ⟨Environment.belowInt_of_real hdelay (by decide), ?_⟩
  have hnonneg := Environment.le_of_whole hpages (by decide)
  by_cases hzero : maxPages = 0
  · simp [hzero]
  · simp only [hzero, if_false, ne_eq, Option.some.injEq]
    omega

/-- The client of an environment is that of its settings. -/
theorem Client.ofEnv_eq (t : Transport σ) (env : Environment) :
    ofEnv t env = (Settings.ofEnv env).map (standard t) := by
  cases hs : Settings.ofEnv env with
  | error fault => rw [ofEnv, hs]; rfl
  | ok s =>
    obtain ⟨hdelay, hbound⟩ := Settings.ofEnv_usable hs
    rw [ofEnv, hs]
    exact ofSettings_eq_ok_iff.mpr ⟨hdelay, hbound, rfl⟩

/-- A number below one is the only thing that can be wrong with the issue of a repository. -/
theorem Issue.ofFields_of_ne {owner repo : String} (howner : owner ≠ "") (hrepo : repo ≠ "")
    (number : Int) :
    ofFields [("owner", .text owner), ("repo_name", .text repo), ("number", .int number)] =
      if number < 1 then .error (.invalid "RepositoryIssue" [("number", .below 1)])
      else .ok ⟨owner, repo, number⟩ := by
  have hlength {text : String} (h : text ≠ "") : ¬text.length < 1 := by
    rw [Nat.lt_one_iff, String.length_eq_zero_iff]
    exact h
  by_cases hnumber : number < 1 <;>
  simp [ofFields, schema, Record.Schema.build, Record.Schema.resolve, Record.Field.resolve,
    Record.Rule.check, Record.wholeOf, Value.field?, hlength howner, hlength hrepo, hnumber,
    Record.textOf, Record.wholeAt, Except.map, bind, Except.bind]

/-! ## Names on the command line -/

/-- Neither part of a name is empty. -/
theorem RepositoryName.parts_ne_of_ofText? {text : String} {name : RepositoryName}
    (h : ofText? text = some name) : name.owner ≠ "" ∧ name.repo ≠ "" := by
  unfold ofText? at h
  split at h
  next owner repo _ =>
    split at h
    next hparts =>
      obtain rfl := Option.some.inj h
      simp only [isPart, Bool.and_eq_true, Bool.not_eq_eq_eq_not, Bool.not_true,
        List.isEmpty_eq_false_iff] at hparts
      exact ⟨mt String.ofList_eq_empty_iff.mp hparts.1.1, mt String.ofList_eq_empty_iff.mp hparts.2.1⟩
    · cases h
  · cases h

namespace CommandLine

theorem parts_ne_of_readTarget {arguments : List String} {name : RepositoryName} {n : Int}
    (h : readTarget arguments = .ok (name, n)) : name.owner ≠ "" ∧ name.repo ≠ "" := by
  unfold readTarget at h
  split at h
  · cases h
  · cases h
  next repository number rest =>
    obtain ⟨_, -, h⟩ := Except.exists_of_bind_eq_ok h
    obtain ⟨_, -, h⟩ := Except.exists_of_bind_eq_ok h
    split at h
    next hname =>
      cases h
      exact RepositoryName.parts_ne_of_ofText? hname
    · cases h

/-- What is not known under its name is no command. -/
theorem refuse_ne_command {name : String} {args : List String} {threshold : Int} {c : Command} :
    refuse name args ≠ .ok (.command threshold c) := by
  intro h
  obtain ⟨⟨g, _⟩, -, h⟩ := Except.exists_of_bind_eq_ok h
  cases hhelp : g.help <;> simp [hhelp, pure, Except.pure, throw, throwThe, MonadExceptOf.throw] at h

/-- A command on a command line has been read by one of the readers. -/
theorem exists_read_of_parse {args : List String} {threshold : Int} {c : Command}
    (h : parse args = .ok (.command threshold c)) :
    ∃ name read arguments, (name, read) ∈ commands ∧ read arguments = .ok c := by
  obtain ⟨⟨g, rest⟩, -, h⟩ := Except.exists_of_bind_eq_ok h
  dsimp only at h
  split at h
  · cases h
  · split at h
    · cases h
    next name more =>
      split at h
      next read hread =>
        obtain ⟨_, -, h⟩ := Except.exists_of_bind_eq_ok h
        obtain ⟨⟨help, arguments⟩, -, h⟩ := Except.exists_of_bind_eq_ok h
        dsimp only at h
        split at h
        · cases h
        · obtain ⟨c', hc', h⟩ := Except.exists_of_bind_eq_ok h
          cases h
          obtain ⟨before, after, hcommands, -⟩ := List.lookup_eq_some_iff.mp hread
          refine ⟨name, read, arguments, ?_, hc'⟩
          rw [hcommands]
          exact List.mem_append_right _ List.mem_cons_self
      · exact absurd h refuse_ne_command

/-- So the repository of a command has an owner and a name. -/
theorem parts_ne_of_parse {args : List String} {threshold : Int} {query : Query}
    {name : RepositoryName} {n : Int}
    (h : parse args = .ok (.command threshold (.read query name n))) :
    name.owner ≠ "" ∧ name.repo ≠ "" := by
  obtain ⟨_, read, arguments, hmem, hread⟩ := exists_read_of_parse h
  have hquery (q) (h : readQuery q arguments = .ok (.read query name n)) :
      name.owner ≠ "" ∧ name.repo ≠ "" := by
    obtain ⟨target, htarget, hc⟩ := Except.exists_of_map_eq_ok h
    cases hc
    exact parts_ne_of_readTarget htarget
  have hend (c : Command) (hc : c ≠ .read query name n)
      (h : (checkEnd arguments).map (fun _ ↦ c) = .ok (.read query name n)) : False := by
    obtain ⟨_, -, heq⟩ := Except.exists_of_map_eq_ok h
    exact hc heq
  simp only [commands, List.mem_cons, Prod.mk.injEq, List.not_mem_nil, or_false] at hmem
  rcases hmem with ⟨-, rfl⟩ | ⟨-, rfl⟩ | ⟨-, rfl⟩ | ⟨-, rfl⟩ | ⟨-, rfl⟩ | ⟨-, rfl⟩
  · exact hquery _ hread
  · exact hquery _ hread
  · exact hquery _ hread
  · exact hquery _ hread
  · exact (hend .rateLimit nofun hread).elim
  · exact (hend .config nofun hread).elim

end CommandLine

/-! ## Reports -/

namespace Text

/-- A text as it is shown, without control sequences. -/
def shown (s : String) : String := String.ofList (withoutControls s.toList)

end Text

namespace Conclusion

/-- What there is room for is printed as it is. -/
theorem emitted_eq_self {room : Nat} {c : Conclusion}
    (h : ∀ v fault, c = .printed v → Json.checkPrint room v ≠ .error fault) :
    c.emitted room = c := by
  cases c with
  | printed v =>
    cases hv : Json.checkPrint room v with
    | ok _ => rw [emitted, hv]
    | error fault => exact absurd hv (h v fault rfl)
  | _ => rfl

theorem of_emitted_eq_printed {room : Nat} {c : Conclusion} {v : Value}
    (h : c.emitted room = .printed v) : c = .printed v ∧ Json.checkPrint room v = .ok () := by
  cases c with
  | printed v' =>
    cases hv : Json.checkPrint room v' with
    | ok _ =>
      rw [emitted, hv] at h
      cases h
      exact ⟨rfl, hv⟩
    | error fault =>
      rw [emitted, hv] at h
      cases h
  | _ => cases h

/-- A report begins with a word that no control sequence can touch. -/
theorem errorLine_eq (message : String) :
    errorLine message = "Error: " ++ Text.shown (message ++ "\n") := by
  have hprefix : Text.withoutControls ("Error: " ++ message ++ "\n").toList =
      "Error: ".toList ++ Text.withoutControls (message ++ "\n").toList := by
    rw [String.append_assoc, String.toList_append]
    generalize (message ++ "\n").toList = rest
    change Text.withoutControls ('E' :: 'r' :: 'r' :: 'o' :: 'r' :: ':' :: ' ' :: rest) = _
    iterate 7 rw [Text.withoutControls_cons_of_ne (by decide)]
    rfl
  rw [errorLine, hprefix, String.ofList_append, String.ofList_toList]
  rfl

/-- The ways in which a command is to end, by what is seen of it. -/
inductive Ends (env : Environment) (x : Conclusion) : Prop
  /-- It prints one document. -/
  | printed {s : Settings} (hs : Settings.ofEnv env = .ok s) (v : Value)
      (hcode : x.exitCode? = some 0) (hdocument : x.document = Json.print v ++ "\n")
      (hreport : x.report = "")
  /-- The settings cannot be used. -/
  | misconfigured {fault : Fault} (hs : Settings.ofEnv env = .error fault)
      (hcode : x.exitCode? = some 2) (hdocument : x.document = "")
      (hreport : x.report = "Error: " ++ Text.shown (fault.message ++ "\n"))
  /-- A failure of the pipeline stops it. -/
  | stopped {s : Settings} {f : Failure} (hs : Settings.ofEnv env = .ok s)
      (hf : f.isPipeline = true) (hcode : x.exitCode? = some 1) (hdocument : x.document = "")
      (hreport : x.report = "Error: " ++ Text.shown (f.message ++ "\n"))

namespace Ends

variable {env : Environment} {s : Settings}

theorem of_misconfigured {fault : Fault} (hs : Settings.ofEnv env = .error fault) :
    (Conclusion.misconfigured fault).Ends env := .misconfigured hs rfl rfl (errorLine_eq _)

theorem of_printed (hs : Settings.ofEnv env = .ok s) (v : Value) :
    (Conclusion.printed v).Ends env := .printed hs v rfl rfl rfl

theorem of_failure (hs : Settings.ofEnv env = .ok s) {f : Failure} (hf : f.isPipeline = true) :
    (ofFailure f).Ends env := by
  rw [ofFailure, if_pos hf]
  exact .stopped hs hf rfl rfl (errorLine_eq _)

theorem isSome_exitCode? {x : Conclusion} (h : x.Ends env) : x.exitCode?.isSome = true := by
  cases h with
  | printed _ _ hcode | misconfigured _ hcode | stopped _ _ hcode => rw [hcode]; rfl

end Ends

end Conclusion

/-! ## Commands -/

/-- The settings of the environment set no bound on pages. -/
def Environment.SetsNoBound (env : Environment) : Prop :=
  ∃ s, Settings.ofEnv env = .ok s ∧ s.maxPages = none

namespace Command

/-- The calls of a client that a command makes raise nothing but failures of the pipeline. -/
def CallsContained (c : Command) (fuel : Nat) (t : Transport σ) (env : Environment)
    (w : World σ) (room : Room) : Prop :=
  ∀ client, Client.ofEnv t env = .ok client →
    match c with
    | .config => True
    | .rateLimit => ∀ f, (client.quota w).1 = .error f → f.isPipeline = true
    | .read query repository number => ∀ op, query.operation repository number = .ok op →
      ∀ f, (Client.run fuel { client with room } op w).1 = .raised f → f.isPipeline = true

/-- There is no room for the document of a command, and this is what is wrong with it. -/
def LacksRoom (c : Command) (fuel : Nat) (t : Transport σ) (env : Environment) (w : World σ)
    (room : Room) (fault : Fault) : Prop :=
  ∃ v, (c.reach room fuel t env w).1 = .printed v ∧
    Json.checkPrint room.document v = .error fault

/-- What passes through a command before it makes any request. -/
def slip? (env : Environment) : Command → Option Failure
  | .config =>
    match Settings.ofEnv env with
    | .ok _ => none
    | .error fault => some (.fault fault)
  | .read .comments _ number =>
    if number < 1 then some (.invalid "RepositoryIssue" [("number", .below 1)]) else none
  | _ => none

/-- What slips is no failure of the pipeline. -/
theorem isPipeline_of_slip? {env : Environment} {c : Command} {f : Failure}
    (h : c.slip? env = some f) : f.isPipeline = false := by
  unfold slip? at h
  split at h
  · split at h <;> cases h
    rfl
  · split at h <;> cases h
    rfl
  · cases h

/-- Whether there is an operation to do is a matter of what slips. -/
theorem operation_of_slip? {env : Environment} {query : Query} {name : RepositoryName} {n : Int}
    (hname : name.owner ≠ "" ∧ name.repo ≠ "") :
    (∀ f, (Command.read query name n).slip? env = some f → query.operation name n = .error f) ∧
    ((Command.read query name n).slip? env = none → ∃ op, query.operation name n = .ok op) := by
  cases query with
  | files | pull | reviews => exact ⟨nofun, fun _ ↦ ⟨_, rfl⟩⟩
  | comments =>
    rw [Query.operation, Issue.ofFields_of_ne hname.1 hname.2, slip?]
    by_cases hn : n < 1
    · simp [hn, Except.map]
    · simp [hn, Except.map]

/-- A command with a client uses the one of the settings. -/
theorem withClient_eq (room : Room) (t : Transport σ) (env : Environment)
    (use : Client σ → World σ → Conclusion × World σ) (w : World σ) :
    withClient room t env use w =
      match Settings.ofEnv env with
      | .ok s => use (Client.standard t { s with room }) w
      | .error fault => (.misconfigured fault, w) := by
  rw [withClient, Client.ofEnv_eq]
  cases Settings.ofEnv env <;> rfl

/-- What a command is given has no empty parts. -/
def HasParts : Command → Prop
  | .read _ name _ => name.owner ≠ "" ∧ name.repo ≠ ""
  | _ => True

variable {t : Transport σ} {env : Environment} {fuel : Nat} {w : World σ} {room : Room}
  {c : Command}

/-- What slips is all that comes of a command. -/
theorem run_of_slip? (hc : c.HasParts) {f : Failure} (h : c.slip? env = some f) :
    c.run fuel t env w room = (.escaped f, w) := by
  have hreach : c.reach room fuel t env w = (.escaped f, w) := by
    cases c with
    | config =>
      unfold slip? at h
      cases hs : Settings.ofEnv env with
      | ok s => simp [hs] at h
      | error fault =>
        simp only [hs, Option.some.injEq] at h
        simp only [reach, hs, h]
    | rateLimit => cases h
    | read query name n => simp only [reach, (operation_of_slip? hc).1 f h]
  rw [run, hreach]
  rfl

/-- What a call returns is printed, and what it raises stops the command. -/
theorem ends_of_ending {s : Settings} (hs : Settings.ofEnv env = .ok s) {ending : Ending Answer}
    (hcalls : ∀ f, ending = .raised f → f.isPipeline = true)
    (hend : s.maxPages ≠ none → ending ≠ .unfinished) :
    (Conclusion.ofEnding ending).Ends env ∨
      Conclusion.ofEnding ending = .unfinished ∧ env.SetsNoBound := by
  cases ending with
  | returned answer => exact .inl (.of_printed hs answer.value)
  | raised f => exact .inl (.of_failure hs (hcalls f rfl))
  | unfinished => exact .inr ⟨rfl, s, hs, by_contra fun hm ↦ hend hm rfl⟩

/-- If nothing slips, a command comes to something in which it is to end. -/
theorem reach_ends (hc : c.HasParts) (hcalls : c.CallsContained fuel t env w room)
    (hslip : c.slip? env = none) :
    (c.reach room fuel t env w).1.Ends env ∨
      (c.reach room fuel t env w).1 = .unfinished ∧ env.SetsNoBound := by
  have hclient (s) (hs : Settings.ofEnv env = .ok s) :
      Client.ofEnv t env = .ok (Client.standard t s) := by
    rw [Client.ofEnv_eq, hs]
    rfl
  cases c with
  | config =>
    cases hs : Settings.ofEnv env with
    | ok s =>
      simp only [reach, hs]
      exact .inl (.of_printed hs _)
    | error fault => simp [slip?, hs] at hslip
  | rateLimit =>
    rw [reach, withClient_eq]
    cases hs : Settings.ofEnv env with
    | error fault => exact .inl (.of_misconfigured hs)
    | ok s =>
      have hraised := hcalls _ (hclient s hs)
      dsimp only at hraised ⊢
      rcases hquota : (Client.standard t { s with room }).quota w with ⟨q | f, w'⟩
      · exact .inl (.of_failure hs (hraised _ (congrArg Prod.fst hquota)))
      · exact .inl (.of_printed hs _)
  | read query name n =>
    -- The operation is there before the settings are read, so it is taken out first.
    obtain ⟨op, hop⟩ := (operation_of_slip? hc).2 hslip
    simp only [reach, hop, withClient_eq]
    cases hs : Settings.ofEnv env with
    | error fault => exact .inl (.of_misconfigured hs)
    | ok s =>
      exact ends_of_ending hs (hcalls _ (hclient s hs) op hop)
        fun hm ↦ Client.standard_run_finishes (s := { s with room }) t hm fuel op w

/-- So it ends in one of these ways, if there is room for its document. -/
theorem run_ends (hc : c.HasParts) (hcalls : c.CallsContained fuel t env w room)
    (hslip : c.slip? env = none) (hroom : ∀ fault, ¬c.LacksRoom fuel t env w room fault) :
    (c.run fuel t env w room).1.Ends env ∨
      (c.run fuel t env w room).1 = .unfinished ∧ env.SetsNoBound := by
  have hrun : (c.run fuel t env w room).1 = (c.reach room fuel t env w).1 :=
    Conclusion.emitted_eq_self fun v fault hv hfault ↦ hroom fault ⟨v, hv, hfault⟩
  rw [hrun]
  exact reach_ends hc hcalls hslip

/-- Without room, what is wrong passes through the command. -/
theorem run_of_lacksRoom {fault : Fault} (h : c.LacksRoom fuel t env w room fault) :
    (c.run fuel t env w room).1 = .escaped (.fault fault) := by
  obtain ⟨v, hv, hfault⟩ := h
  rw [run, hv, Conclusion.emitted, hfault]

end Command

namespace CommandLine

theorem hasParts_of_parse {args : List String} {threshold : Int} {c : Command}
    (h : parse args = .ok (.command threshold c)) : c.HasParts := by
  cases c with
  | read query name n => exact parts_ne_of_parse h
  | rateLimit | config => trivial

/-- A command line is refused, asks for help, or holds a command.  That ends in one of the ways
in which it is to end, unless something slips, or the pages that it lists have no bound and no
end: it prints one document and the exit code is 0, reports settings that cannot be used and the
code is 2, or reports a failure of the pipeline and the code is 1.  What slips passes through the
command, before any request, and so does what is wrong with a document for which there is no
room. -/
theorem ends_unless_slips (t : Transport σ) (env : Environment) (fuel : Nat) (w : World σ)
    (room : Room) (args : List String)
    (hcalls : ∀ threshold c, parse args = .ok (.command threshold c) →
      c.CallsContained fuel t env w room) :
    (∃ fault, parse args = .error fault) ∨ parse args = .ok .help ∨
    ∃ threshold c, parse args = .ok (.command threshold c) ∧
      (∀ f, c.slip? env = some f →
        c.run fuel t env w room = (.escaped f, w) ∧ f.isPipeline = false) ∧
      (∀ fault, c.LacksRoom fuel t env w room fault →
        (c.run fuel t env w room).1 = .escaped (.fault fault)) ∧
      (c.slip? env = none → (∀ fault, ¬c.LacksRoom fuel t env w room fault) →
        (c.run fuel t env w room).1.Ends env ∨
          (c.run fuel t env w room).1 = .unfinished ∧ env.SetsNoBound) := by
  rcases h : parse args with fault | _ | ⟨threshold, c⟩
  · exact .inl ⟨fault, rfl⟩
  · exact .inr (.inl rfl)
  · refine .inr (.inr ⟨threshold, c, rfl, fun f hslip ↦ ?_, fun fault ↦ Command.run_of_lacksRoom,
      fun hslip ↦ ?_⟩)
    · exact ⟨Command.run_of_slip? (hasParts_of_parse h) hslip, Command.isPipeline_of_slip? hslip⟩
    · exact Command.run_ends (hasParts_of_parse h) (hcalls threshold c h) hslip

/-- Without any route, a pull request is asked for in vain. -/
theorem pull_ends :
    let c : Command := .read .pull ⟨"o", "r"⟩ 7
    parse ["pull", "o/r", "7"] = .ok (.command 30 c) ∧
    c.CallsContained 0 Routes.transport [] { machine := {} } {} ∧
    (c.run 0 Routes.transport [] { machine := {} }).1.Ends [] ∧
    (c.run 0 Routes.transport [] { machine := {} }).1.exitCode? = some 1 := by
  intro c
  have hparse : parse ["pull", "o/r", "7"] = .ok (.command 30 c) := rfl
  have hraised : (Client.ofEnv Routes.transport []).toOption.map (fun client ↦
      match (Client.run 0 { client with room := {} } (.pullRequest "o" "r" (.int 7))
        { machine := {} }).1 with
      | .raised f => f.isPipeline
      | _ => true) = some true := by decide +kernel
  have hcalls : c.CallsContained 0 Routes.transport [] { machine := {} } {} := by
    intro client hclient op hop f hf
    obtain rfl := Except.ok.inj hop
    simpa only [hclient, Except.toOption, Option.map_some, hf, Option.some.injEq] using hraised
  have hcode : (c.run 0 Routes.transport [] { machine := {} }).1.exitCode? = some 1 := by
    decide +kernel
  obtain ⟨_, h⟩ | h | ⟨_, _, h, -, hlacks, hends⟩ := ends_unless_slips Routes.transport [] 0
    { machine := {} } {} ["pull", "o/r", "7"]
    (by rintro _ _ h; cases hparse.symm.trans h; exact hcalls)
  · cases hparse.symm.trans h
  · cases hparse.symm.trans h
  · cases hparse.symm.trans h
    have hroom (fault) : ¬c.LacksRoom 0 Routes.transport [] { machine := {} } {} fault := by
      intro hlack
      rw [hlacks fault hlack] at hcode
      cases hcode
    obtain hends | ⟨hunfinished, -⟩ := hends rfl hroom
    · exact ⟨hparse, hcalls, hends, hcode⟩
    · rw [hunfinished] at hcode
      cases hcode

/-- If a page is to have no items, nothing reports that to who asks for the settings, although it
is reported to who asks for the quota.  Nothing reports either that no issue has the number 0. -/
theorem slips_not_ends :
    let env : Environment := [("PR_BOT_PER_PAGE", "0")]
    let w : World Routes := { machine := {} }
    let comments : Command := .read .comments ⟨"o", "r"⟩ 0
    (parse ["config"] = .ok (.command 30 .config) ∧
      Command.config.CallsContained 0 Routes.transport env w {} ∧
      ¬(Command.config.run 0 Routes.transport env w).1.Ends env ∧
      (Command.rateLimit.run 0 Routes.transport env w).1.exitCode? = some 2) ∧
    parse ["comments", "o/r", "0"] = .ok (.command 30 comments) ∧
      comments.CallsContained 0 Routes.transport [] w {} ∧
      ¬(comments.run 0 Routes.transport [] w).1.Ends [] := by
  refine ⟨⟨rfl, fun _ _ ↦ trivial, fun h ↦ ?_, by decide +kernel⟩, rfl, ?_, fun h ↦ ?_⟩
  · exact absurd h.isSome_exitCode? (by decide +kernel)
  · rintro _ _ _ ⟨⟩
  · exact absurd h.isSome_exitCode? (by decide +kernel)

end CommandLine

end PullRelay
