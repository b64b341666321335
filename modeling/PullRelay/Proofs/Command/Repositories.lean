import PullRelay.Proofs.Command.Conclusions
import PullRelay.Proofs.Text.Pieces
import PullRelay.Proofs.Url.Segments

/-!
# Repositories on the command line

The name of a repository is written as its owner, a slash and its own name, and in no other way
but for blanks around it (`RepositoryName.ofText?_eq_some_iff`).  A command line that asks
for something in a repository (`CommandLine.Asks`) is refused without any request if the
repository is not so written.  Otherwise all requests of the command go to paths in which owner
and name are a segment each, and nothing else of these paths depends on what was given
(`CommandLine.repository_confined`).
-/

namespace PullRelay

open Text

variable {σ : Type}

/-! ## Names -/

namespace RepositoryName

/-- A letter or a digit of ASCII, or one of three others. -/
def NameChar (c : Char) : Prop := c.isAlphanum = true ∨ c ∈ ['_', '.', '-']

/-- Something, and nothing but characters of names. -/
structure IsPart (part : String) : Prop where
  ne_empty : part ≠ ""
  chars : ∀ c ∈ part.toList, NameChar c

/-- The text is owner and name with a slash between them. -/
structure IsSpelledBy (name : RepositoryName) (text : String) : Prop where
  text_eq : text = name.owner ++ "/" ++ name.repo
  owner : IsPart name.owner
  repo : IsPart name.repo

variable {c : Char} {part text : String} {name : RepositoryName}

theorem isNameChar_iff : isNameChar c = true ↔ NameChar c := by
  simp only [isNameChar, NameChar, Url.Percent.isAsciiAlphanumeric_iff, Bool.or_eq_true,
    beq_iff_eq, or_assoc, List.mem_cons, List.not_mem_nil, or_false]

theorem NameChar.unreserved (hc : NameChar c) : Url.Percent.Unreserved c := by
  refine hc.imp_right fun hmem ↦ ?_
  exact List.mem_append_left ['~'] hmem

/-- No blanks are among them, and so no line breaks. -/
theorem NameChar.isBlank_eq (hc : NameChar c) : isBlank c = false := by
  rcases hc with hc | hc
  · rw [Url.Percent.isAlphanum_iff_toNat, Char.isDigit_iff_toNat] at hc
    rw [isBlank, ← Bool.not_eq_true, CharSet.contains_iff]
    have hzero : '0'.toNat = 0x30 := rfl
    have hnine : '9'.toNat = 0x39 := rfl
    simp only [blanks, List.mem_cons, List.not_mem_nil, or_false, exists_eq_or_imp,
      exists_eq_left]
    omega
  · simp only [List.mem_cons, List.not_mem_nil, or_false] at hc
    obtain rfl | rfl | rfl := hc
    all_goals decide

theorem NameChar.ne_slash (hc : NameChar c) : c ≠ '/' := by
  rintro rfl
  exact hc.unreserved.notMem (by decide)

theorem isPart_toList_iff : isPart part.toList = true ↔ IsPart part := by
  have hempty : (!part.toList.isEmpty) = true ↔ part ≠ "" := by
    rw [Bool.not_eq_true', List.isEmpty_eq_false_iff, ne_eq, String.toList_eq_nil_iff]
  rw [isPart, Bool.and_eq_true, hempty, List.all_eq_true]
  simp only [isNameChar_iff]
  exact ⟨fun h ↦ ⟨h.1, h.2⟩, fun h ↦ ⟨h.ne_empty, h.chars⟩⟩

theorem IsPart.notMem (h : IsPart part) : '/' ∉ part.toList := fun hmem ↦
  (h.chars '/' hmem).ne_slash rfl

theorem toList_slash (owner repo : String) :
    (owner ++ "/" ++ repo).toList = owner.toList ++ '/' :: repo.toList := by
  rw [String.toList_append, String.toList_append, List.append_assoc]
  rfl

/-- A text spells one name at most, for there is one slash to part it at. -/
theorem IsSpelledBy.unique {name' : RepositoryName} (h : name.IsSpelledBy text)
    (h' : name'.IsSpelledBy text) : name = name' := by
  have hcut := h.text_eq.symm.trans h'.text_eq
  rw [← String.toList_inj, toList_slash, toList_slash] at hcut
  have hparts := congrArg (splitFirst '/') hcut
  rw [splitFirst_append h.owner.notMem, splitFirst_append h'.owner.notMem, Prod.mk.injEq,
    Option.some.injEq, String.toList_inj, String.toList_inj] at hparts
  cases name
  cases name'
  exact congrArg₂ RepositoryName.mk hparts.1 hparts.2

/-- What is read as a name is its spelling, up to blanks around it, and nothing else. -/
theorem ofText?_eq_some_iff : ofText? text = some name ↔ name.IsSpelledBy (strip text) := by
  constructor
  · intro h
    unfold ofText? at h
    split at h
    next owner repo hsplit =>
      split at h
      next hparts =>
        obtain rfl := Option.some.inj h
        rw [Bool.and_eq_true, ← @String.toList_ofList owner, ← @String.toList_ofList repo,
          isPart_toList_iff, isPart_toList_iff] at hparts
        refine ⟨?_, hparts.1, hparts.2⟩
        rw [← String.toList_inj, toList_strip, toList_slash, String.toList_ofList,
          String.toList_ofList, eq_append_of_splitFirst hsplit]
      · cases h
    · cases h
  · rintro ⟨htext, howner, hrepo⟩
    have hsplit : splitFirst '/' (trimList isBlank text.toList) =
        (name.owner.toList, some name.repo.toList) := by
      rw [← toList_strip, htext, toList_slash, splitFirst_append howner.notMem]
    rw [ofText?, hsplit]
    simp only [isPart_toList_iff.mpr howner, isPart_toList_iff.mpr hrepo, Bool.and_self, if_true,
      String.ofList_toList]

/-- Owner and name stand in the path as they are, a segment each, and what is after them does not
depend on them. -/
structure StandsIn (name : RepositoryName) (path tail : String) : Prop where
  path_eq : path = "/repos/" ++ name.owner ++ "/" ++ name.repo ++ "/" ++ tail
  segments : splitAll '/' path.toList =
    [] :: "repos".toList :: name.owner.toList :: name.repo.toList :: splitAll '/' tail.toList
  chars : ∀ c ∈ name.owner.toList ++ name.repo.toList,
    c ∉ ['/', '?', '#', '%'] ∧ isBlank c = false

theorem standsIn (howner : IsPart name.owner) (hrepo : IsPart name.repo) (tail : String) :
    name.StandsIn ("/repos/" ++ name.owner ++ "/" ++ name.repo ++ "/" ++ tail) tail where
  path_eq := rfl
  segments := by
    have hpath : ("/repos/" ++ name.owner ++ "/" ++ name.repo ++ "/" ++ tail).toList =
        [] ++ '/' :: ("repos".toList ++ '/' :: (name.owner.toList ++ '/' ::
          (name.repo.toList ++ '/' :: tail.toList))) := by
      simp only [String.toList_append, List.append_assoc]
      rfl
    rw [hpath, splitAll_append (by decide), splitAll_append (by decide),
      splitAll_append howner.notMem, splitAll_append hrepo.notMem]
  chars c hc := by
    have hname : NameChar c := (List.mem_append.mp hc).elim (howner.chars c) (hrepo.chars c)
    refine ⟨fun hmem ↦ hname.unreserved.notMem ?_, hname.isBlank_eq⟩
    simp only [List.mem_cons, List.not_mem_nil, or_false] at hmem ⊢
    tauto

end RepositoryName

/-! ## Queries -/

namespace Query

/-- The name of the command that makes a query. -/
def word : Query → String
  | .files => "files"
  | .pull => "pull"
  | .comments => "comments"
  | .reviews => "reviews"

/-- What is in the path after the repository. -/
def tail (n : Int) : Query → String
  | .files => "pulls/" ++ toString n ++ "/files"
  | .pull => "pulls/" ++ toString n
  | .comments => "issues/" ++ toString n ++ "/comments"
  | .reviews => "pulls/" ++ toString n ++ "/reviews"

variable {query : Query} {name : RepositoryName} {n : Int}

theorem path_of_operation (howner : name.owner ≠ "") (hrepo : name.repo ≠ "") {op : Operation}
    (h : query.operation name n = .ok op) :
    op.path = "/repos/" ++ name.owner ++ "/" ++ name.repo ++ "/" ++ query.tail n := by
  have hnumber : (Value.int n).asText = toString n := rfl
  have hslash (text : String) : "/" ++ ("pulls/" ++ text) = "/pulls/" ++ text ∧
      "/" ++ ("issues/" ++ text) = "/issues/" ++ text := by
    rw [← String.append_assoc, ← String.append_assoc]
    exact ⟨rfl, rfl⟩
  cases query with
  | files | pull | reviews =>
    cases h
    simp only [Operation.path, Operation.pull, Operation.repository, tail, hnumber,
      String.append_assoc, hslash]
  | comments =>
    rw [operation, Issue.ofFields_of_ne howner hrepo] at h
    split at h
    · cases h
    · cases h
      simp only [Operation.path, Operation.issues, Operation.repository, tail,
        String.append_assoc, hslash]

end Query

/-- All that a query requests is its path, apart from a probe. -/
theorem Command.extends_run_read (t : Transport σ) (env : Environment) (fuel : Nat) (query : Query)
    {name : RepositoryName} (howner : name.owner ≠ "") (hrepo : name.repo ≠ "") (n : Int)
    (w : World σ) (room : Room) :
    w.Extends (fun e ↦ ∀ r ∈ e.request?, r = QuotaSnapshot.request ∨
        r.path = "/repos/" ++ name.owner ++ "/" ++ name.repo ++ "/" ++ query.tail n)
      ((Command.read query name n).run fuel t env w room).2 := by
  have hrun : ((Command.read query name n).run fuel t env w room).2 =
      ((Command.read query name n).reach room fuel t env w).2 := rfl
  rw [hrun]
  cases hop : query.operation name n with
  | error f =>
    simp only [reach, hop]
    exact .refl w
  | ok op =>
    simp only [reach, hop, withClient_eq]
    cases Settings.ofEnv env with
    | error fault => exact .refl w
    | ok s =>
      refine (Client.requests_standard_run t { s with room } op fuel w).mono fun e he r hr ↦ ?_
      refine (he r hr).imp_right fun hsends ↦ ?_
      rw [hsends.path_eq, Query.path_of_operation howner hrepo hop]

/-! ## Command lines -/

namespace CommandLine

/-- The world after a command line: that after its command, if there is one. -/
def worldAfter (fuel : Nat) (t : Transport σ) (env : Environment) (args : List String)
    (w : World σ) (room : Room) : World σ :=
  match parse args with
  | .ok (.command _ c) => (c.run fuel t env w room).2
  | _ => w

/-- The command line makes a query, with this text for the repository and one for the number. -/
def Asks (args : List String) (threshold : Int) (query : Query) (repository : String)
    (n : Int) : Prop :=
  ∃ g more number, takeGlobals {} args = .ok (g, query.word :: more) ∧ g.help = false ∧
    Log.levelOfName g.logLevel = .ok threshold ∧
    takeArguments more = .ok (false, [repository, number]) ∧ Lenient.readWhole number = .ok n

variable {args : List String} {threshold n : Int} {query : Query} {repository : String}

theorem lookup_word (query : Query) : commands.lookup query.word = some (readQuery query) := by
  cases query <;> rfl

/-- It is refused or made by what is written for the repository. -/
theorem Asks.parse_eq (h : Asks args threshold query repository n) :
    parse args =
      match RepositoryName.ofText? repository with
      | some name => .ok (.command threshold (.read query name n))
      | none => .error (.notARepository repository) := by
  obtain ⟨g, more, number, hglobals, hhelp, hlevel, harguments, hnumber⟩ := h
  have hparse : parse args = readCommand g more (readQuery query) := by
    simp only [parse, hglobals, bind, Except.bind, hhelp, lookup_word]
    rfl
  rw [hparse]
  simp only [readCommand, hlevel, harguments, readQuery, readTarget, hnumber, bind, Except.bind,
    Except.mapError, checkEnd]
  cases RepositoryName.ofText? repository <;> rfl

/-- A repository is given by owner and name with a slash between them, and by nothing else but
blanks around that.  If something else is given, a query is refused and nothing is requested.
Otherwise owner and name stand in the path of every request, apart from a probe, as one segment
each. -/
theorem repository_confined (repository : String) :
    (∀ name : RepositoryName,
      RepositoryName.ofText? repository = some name ↔ name.IsSpelledBy (strip repository)) ∧
    (∀ name name' : RepositoryName, name.IsSpelledBy (strip repository) →
      name'.IsSpelledBy (strip repository) → name = name') ∧
    ∀ args threshold query n, Asks args threshold query repository n →
      (RepositoryName.ofText? repository = none →
        parse args = .error (.notARepository repository) ∧
        ∀ ⦃σ : Type⦄ (t : Transport σ) env fuel (w : World σ) room,
          worldAfter fuel t env args w room = w) ∧
      ∀ name, RepositoryName.ofText? repository = some name →
        parse args = .ok (.command threshold (.read query name n)) ∧
        ∀ ⦃σ : Type⦄ (t : Transport σ) env fuel (w : World σ) room,
          w.Extends (fun e ↦ ∀ r ∈ e.request?, r = QuotaSnapshot.request ∨
            name.StandsIn r.path (query.tail n)) (worldAfter fuel t env args w room) := by
  refine ⟨fun name ↦ RepositoryName.ofText?_eq_some_iff, fun _ _ h h' ↦ h.unique h',
    fun args threshold query n hasks ↦ ⟨fun hnone ↦ ?_, fun name hname ↦ ?_⟩⟩
  · have hparse := hasks.parse_eq
    rw [hnone] at hparse
    refine ⟨hparse, fun σ t env fuel w room ↦ ?_⟩
    rw [worldAfter, hparse]
  · have hparse := hasks.parse_eq
    rw [hname] at hparse
    refine ⟨hparse, fun σ t env fuel w room ↦ ?_⟩
    obtain ⟨-, howner, hrepo⟩ := RepositoryName.ofText?_eq_some_iff.mp hname
    rw [worldAfter, hparse]
    refine (Command.extends_run_read t env fuel query howner.ne_empty hrepo.ne_empty n w
      room).mono fun e he r hr ↦ (he r hr).imp_right fun hpath ↦ ?_
    rw [hpath]
    exact RepositoryName.standsIn howner hrepo _

/-- Blanks around a name do not matter, line breaks among them. -/
theorem spaced_asks : Asks ["--log-level", "debug", "reviews", "--", "\u2003o-1/r_2.x\n", "7"] 10
    .reviews "\u2003o-1/r_2.x\n" 7 :=
  ⟨{ logLevel := "debug" }, ["--", "\u2003o-1/r_2.x\n", "7"], "7", rfl, rfl, rfl, rfl, rfl⟩

/-- No line break may stand in a name. -/
theorem broken_asks : Asks ["pull", "o/r\n/x", "7"] 30 .pull "o/r\n/x" 7 :=
  ⟨{}, ["o/r\n/x", "7"], "7", rfl, rfl, rfl, rfl, rfl⟩

theorem spaced_confined_broken_refused :
    let spaced := ["--log-level", "debug", "reviews", "--", "\u2003o-1/r_2.x\n", "7"]
    let name : RepositoryName := ⟨"o-1", "r_2.x"⟩
    (name.IsSpelledBy (strip "\u2003o-1/r_2.x\n") ∧
      parse spaced = .ok (.command 10 (.read .reviews name 7)) ∧
      ∀ ⦃σ : Type⦄ (t : Transport σ) env fuel (w : World σ) room,
        w.Extends (fun e ↦ ∀ r ∈ e.request?, r = QuotaSnapshot.request ∨
          name.StandsIn r.path "pulls/7/reviews") (worldAfter fuel t env spaced w room)) ∧
    parse ["pull", "o/r\n/x", "7"] = .error (.notARepository "o/r\n/x") ∧
      ∀ ⦃σ : Type⦄ (t : Transport σ) env fuel (w : World σ) room,
        worldAfter fuel t env ["pull", "o/r\n/x", "7"] w room = w := by
  intro spaced name
  have hname : RepositoryName.ofText? "\u2003o-1/r_2.x\n" = some name := by decide +kernel
  have hnone : RepositoryName.ofText? "o/r\n/x" = none := by decide +kernel
  obtain ⟨hspelled, -, hconfined⟩ := repository_confined "\u2003o-1/r_2.x\n"
  obtain ⟨-, -, hrefused⟩ := repository_confined "o/r\n/x"
  exact ⟨⟨(hspelled name).mp hname, (hconfined _ _ _ _ spaced_asks).2 name hname⟩,
    (hrefused _ _ _ _ broken_asks).1 hnone⟩

end CommandLine

end PullRelay
