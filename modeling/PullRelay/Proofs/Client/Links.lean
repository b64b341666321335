import PullRelay.Proofs.Client.Calls
import PullRelay.Proofs.Number.Decimal
import PullRelay.Proofs.Url.Authorities

/-!
# Links that stop a page

The page that follows is read from a header of any text.  Links that are malformed name no
page, and neither do those to something that is no number.  But if the first link to a next page
has an address whose authority cannot be used, reading it fails (`Headers.nextPage_fails_iff`),
and no unit of work returns then: not even the failure of a response, which would be tried
again, for the links of a response are read whether it has failed or not.
-/

namespace PullRelay

variable {σ ι : Type}

/-- A link names a page, or none, if the authority of its address can be used. -/
theorem Link.page_of_usable {link : Link} (h : Url.Usable (Url.authority link.address)) :
    ∃ next, link.page = .ok next := by
  obtain ⟨query, hquery⟩ := Url.exists_query_iff.mpr h
  rw [page, hquery]
  exact ⟨_, rfl⟩

theorem Link.page_of_query_error {link : Link} {fault : HostFault}
    (h : Url.query link.address = .error fault) : link.page = .error (.host fault) := by
  rw [page, h]
  rfl

theorem Link.page_of_not_usable {link : Link} (h : ¬Url.Usable (Url.authority link.address)) :
    ∃ fault, link.page = .error (.host fault) := by
  cases hquery : Url.query link.address with
  | ok query => exact absurd (Url.exists_query_iff.mp ⟨query, hquery⟩) h
  | error fault => exact ⟨fault, page_of_query_error hquery⟩

namespace Headers

/-- The first link that points to the page that follows. -/
def nextLink? (headers : Headers) : Option Link := (Link.parse headers.linkText).find? Link.isNext

/-- That link has an address whose authority cannot be used. -/
def NamesUnusable (headers : Headers) : Prop :=
  ∃ link, headers.nextLink? = some link ∧ ¬Url.Usable (Url.authority link.address)

variable {headers : Headers}

theorem nextPage_of_nextLink {link : Link} (h : headers.nextLink? = some link) :
    headers.nextPage = link.page := by
  rw [nextLink?] at h
  rw [nextPage, h]

theorem nextPage_of_namesUnusable (h : headers.NamesUnusable) :
    ∃ fault, headers.nextPage = .error (.host fault) := by
  obtain ⟨link, hlink, hunusable⟩ := h
  rw [nextPage_of_nextLink hlink]
  exact Link.page_of_not_usable hunusable

theorem nextPage_of_not_namesUnusable (h : ¬headers.NamesUnusable) :
    ∃ next, headers.nextPage = .ok next := by
  cases hlink : headers.nextLink? with
  | none =>
    rw [nextLink?] at hlink
    rw [nextPage, hlink]
    exact ⟨none, rfl⟩
  | some link =>
    rw [nextPage_of_nextLink hlink]
    by_cases husable : Url.Usable (Url.authority link.address)
    · exact Link.page_of_usable husable
    · exact absurd ⟨link, hlink, husable⟩ h

theorem exists_nextPage_iff : (∃ next, headers.nextPage = .ok next) ↔ ¬headers.NamesUnusable := by
  constructor
  · rintro ⟨next, hnext⟩ hunusable
    obtain ⟨fault, hfault⟩ := nextPage_of_namesUnusable hunusable
    rw [hfault] at hnext
    cases hnext
  · exact nextPage_of_not_namesUnusable

end Headers

namespace Client

variable {c : Client σ} {call : Call ι} {page : Int} {s : State σ ι} {response : Response}
  {items : List ι} {error : Option Failure}

/-- Where the links name a page or none, a unit of work returns the page that it has read. -/
theorem unit_of_nextPage {next : Option Int} (hpaginated : call.paginated = true)
    (hresponse : (c.transport (call.request c.perPage page) s.world.machine).1 = .ok response)
    (hread : call.readPage c.room response = .ok (items, error))
    (hnext : response.headers.nextPage = .ok next) :
    (c.unit call page s).1 =
      .returned { apply := Action.stage items, status := response.status, next, error } := by
  rw [unit_apply, hresponse, Call.ending, Call.result, hread, Call.nextPage, if_pos hpaginated,
    hnext]
  rfl

theorem unit_of_nextPage_error {fault : Fault} (hpaginated : call.paginated = true)
    (hresponse : (c.transport (call.request c.perPage page) s.world.machine).1 = .ok response)
    (hread : call.readPage c.room response = .ok (items, error))
    (hnext : response.headers.nextPage = .error fault) :
    (c.unit call page s).1 = .raised (.fault fault) := by
  rw [unit_apply, hresponse, Call.ending, Call.result, hread, Call.nextPage, if_pos hpaginated,
    hnext]
  rfl

end Client

/-- The page that follows can be read unless the link to it has an address that cannot be used.
In a call in pages, that address decides whether what a response comes to is returned; if it
cannot be used, the fault of its host is raised in the place of the page, and of a failure that
the response carries as well. -/
theorem Headers.nextPage_fails_iff (headers : Headers) :
    ((∃ next, headers.nextPage = .ok next) ↔ ¬headers.NamesUnusable) ∧
    ∀ (c : Client σ) (call : Call ι) (page : Int) (s : State σ ι) (response : Response),
      call.paginated = true → response.headers = headers →
      (c.transport (call.request c.perPage page) s.world.machine).1 = .ok response →
      (∀ items error, call.readPage c.room response = .ok (items, error) →
        (∀ next, headers.nextPage = .ok next → (c.unit call page s).1 =
          .returned { apply := Action.stage items, status := response.status, next, error }) ∧
        (headers.NamesUnusable →
          ∃ fault, (c.unit call page s).1 = .raised (.fault (.host fault)))) ∧
      ∀ e, response.failure? c.room.message = .ok (some e) →
        ((∃ result, (c.unit call page s).1 = .returned result ∧ result.error = some e) ↔
          ¬headers.NamesUnusable) := by
  refine ⟨exists_nextPage_iff, ?_⟩
  rintro c call page s response hpaginated rfl hresponse
  have hraises {items error} (hread : call.readPage c.room response = .ok (items, error))
      (hunusable : response.headers.NamesUnusable) :
      ∃ fault, (c.unit call page s).1 = .raised (.fault (.host fault)) := by
    obtain ⟨fault, hfault⟩ := nextPage_of_namesUnusable hunusable
    exact ⟨fault, Client.unit_of_nextPage_error hpaginated hresponse hread hfault⟩
  constructor
  · intro items error hread
    exact ⟨fun next ↦ Client.unit_of_nextPage hpaginated hresponse hread, hraises hread⟩
  · intro e he
    have hread : call.readPage c.room response = .ok ([], some e) := Call.readPage_of_failure he
    constructor
    · rintro ⟨result, hresult, -⟩ hunusable
      obtain ⟨fault, hfault⟩ := hraises hread hunusable
      rw [hfault] at hresult
      cases hresult
    · intro husable
      obtain ⟨next, hnext⟩ := exists_nextPage_iff.mpr husable
      exact ⟨_, Client.unit_of_nextPage hpaginated hresponse hread hnext, rfl⟩

/-- A client whose server fails, with these headers. -/
def Client.refused (headers : Headers) : Client Unit where
  transport _ m := (.ok { status := 500, headers }, m)
  chain := []

theorem Client.failure?_refused (headers : Headers) (room : Nat) :
    ({ status := 500, headers } : Response).failure? room = .ok (some (.remote 500 "")) := by
  have htext : Numeral.IsReadable 500 := Numeral.isReadable_of_lt_pow 3 (by decide) (by decide)
  exact Response.failure?_of_text rfl (show (404 : Int) ≤ 500 by decide) rfl htext

/-- A call for the files of a pull request. -/
def Call.files : Call Item := (Operation.pullRequestFiles "octo" "relay" (.int 7)).call

/-- Stray brackets and a page in words are no page, and leave the failure as it is. -/
theorem Headers.nextPage_fails_iff_garbled :
    let headers : Headers := [("Link", .text "<//>>?page=two>; rel=\"next\"; ;")]
    ¬headers.NamesUnusable ∧
    ∃ result, ((Client.refused headers).unit Call.files 1 { world := { machine := () } }).1 =
      .returned result ∧ result.error = some (.remote 500 "") := by
  intro headers
  obtain ⟨hiff, hunits⟩ := nextPage_fails_iff (σ := Unit) (ι := Item) headers
  have hlink : headers.nextLink? = some ⟨"//>>?page=two", [("rel", "next")]⟩ := by
    decide +kernel
  have hquery : Url.query "//>>?page=two" = .ok "page=two".toList := by decide +kernel
  have husable : ¬headers.NamesUnusable := by
    refine hiff.mp ?_
    rw [nextPage_of_nextLink hlink]
    exact Link.page_of_usable (Url.exists_query_iff.mp ⟨_, hquery⟩)
  have hunit := hunits (Client.refused headers) Call.files 1 { world := { machine := () } }
    { status := 500, headers } rfl rfl rfl
  exact ⟨husable, (hunit.2 _ (Client.failure?_refused headers _)).mpr husable⟩

/-- A bracket that nothing closes stops the page, and the failure of the response is lost. -/
theorem Headers.nextPage_bracket :
    let headers : Headers := [("Link", .text "<https://[bad>; rel=\"next\"")]
    headers.nextPage = .error (.host .misplacedBrackets) ∧
    ((Client.refused headers).unit Call.files 1 { world := { machine := () } }).1 =
      .raised (.fault (.host .misplacedBrackets)) := by
  intro headers
  have hlink : headers.nextLink? = some ⟨"https://[bad", [("rel", "next")]⟩ := by decide +kernel
  have hquery : Url.query "https://[bad" = .error .misplacedBrackets := by decide +kernel
  have hpage : headers.nextPage = .error (.host .misplacedBrackets) := by
    rw [nextPage_of_nextLink hlink]
    exact Link.page_of_query_error hquery
  exact ⟨hpage, Client.unit_of_nextPage_error rfl rfl
    (Call.readPage_of_failure (Client.failure?_refused headers _))
    hpage⟩

end PullRelay
