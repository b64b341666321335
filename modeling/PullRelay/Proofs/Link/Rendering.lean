import PullRelay.Proofs.Link.Pieces
import PullRelay.Proofs.Number.Decimal
import PullRelay.Proofs.Text.Casing
import PullRelay.Proofs.Url.Authorities
import PullRelay.Proofs.Url.Queries

/-!
# Links as servers write them

A server writes the links of a page as addresses of one form, each with its relation, and the
header that holds them is read as what was written (`Headers.nextPage_rendered`): the number in
the first `page` parameter of the first link to a next page, whatever stands around it.  Each of
three readers undoes its part of the writing: that of headers (`Link.parse_rendered`), that of
addresses (`PageLink.query_address`), and that of queries (`PageLink.parameters_query`).
-/

namespace PullRelay

open Text

/-! ## Writing -/

/-- One character or more, all of them in `p`. -/
structure Word (p : Char → Bool) where
  text : List Char
  ne_nil : text ≠ []
  all : ∀ c ∈ text, p c = true

/-- A word that is written out. -/
def Word.ofString {p : Char → Bool} (s : String) (hne : s.toList ≠ [])
    (hall : s.toList.all p = true) : Word p := ⟨s.toList, hne, List.all_eq_true.mp hall⟩

theorem Word.notMem {p : Char → Bool} (w : Word p) {c : Char} (h : p c = false) : c ∉ w.text := by
  intro hmem
  rw [w.all c hmem] at h
  cases h

namespace PageLink

/-- May stand in the name of a host. -/
def isHostChar (c : Char) : Bool := isAsciiAlphanumeric c || c == '.' || c == '-'

/-- May stand in a path. -/
def isPathChar (c : Char) : Bool := isHostChar c || c == '_' || c == '/'

/-- May stand in the name or the value of a parameter. -/
def isParameterChar (c : Char) : Bool := isAsciiAlphanumeric c || c == '-' || c == '_'

/-- May stand in a relation. -/
def isRelationChar (c : Char) : Bool := isAsciiAlphanumeric c || c == '-'

/-- A parameter.  A page is given by a number that is not too long. -/
structure Parameter where
  name : Word isParameterChar
  value : Word isParameterChar
  digits : name.text = "page".toList →
    (∀ c ∈ value.text, c.isDigit = true) ∧ value.text.length ≤ Numeral.digitLimit

namespace Parameter

def isPage (p : Parameter) : Bool := p.name.text == "page".toList

/-- The number that the value writes, if it writes one. -/
def number (p : Parameter) : Int := Nat.ofDigitChars 10 p.value.text 0

def written (p : Parameter) : List Char := p.name.text ++ '=' :: p.value.text

end Parameter

end PageLink

/-- A link to a page: the parts of its address, and its relation. -/
structure PageLink where
  host : Word PageLink.isHostChar
  path : List Char
  path_all : ∀ c ∈ path, PageLink.isPathChar c = true
  parameters : List PageLink.Parameter
  relation : Word PageLink.isRelationChar

namespace PageLink

/-- The parameters with ampersands between them. -/
def query (l : PageLink) : List Char := joinWith ['&'] (l.parameters.map Parameter.written)

/-- What follows the host. -/
def afterHost (l : PageLink) : List Char := '/' :: (l.path ++ '?' :: l.query)

def address (l : PageLink) : List Char := "https://".toList ++ (l.host.text ++ l.afterHost)

/-- The link between its opening bracket and its closing quote. -/
def body (l : PageLink) : List Char := l.address ++ (">; rel=\"".toList ++ l.relation.text)

def written (l : PageLink) : List Char := '<' :: (l.body ++ ['"'])

/-- The links of a header, with commas between them. -/
def rendered (links : List PageLink) : List Char := joinWith ", ".toList (links.map written)

/-- The link points to the page that follows. -/
def isNext (l : PageLink) : Bool := l.relation.text == "next".toList

/-- The number of the page: that of the first parameter for it. -/
def page? (l : PageLink) : Option Int := (l.parameters.find? Parameter.isPage).map Parameter.number

/-- What the link is read as. -/
def link (l : PageLink) : Link :=
  { target := String.ofList l.address, attributes := [("rel", String.ofList l.relation.text)] }

/-- May stand in an address. -/
def isAddressChar (c : Char) : Bool :=
  isPathChar c || c == ':' || c == '?' || c == '=' || c == '&'

theorem bounds_of_isAsciiAlphanumeric {c : Char} (h : isAsciiAlphanumeric c = true) :
    0x30 ≤ c.toNat ∧ c.toNat ≤ 0x7A := by
  simp only [isAsciiAlphanumeric, isAsciiLetter, asciiDigit?, Bool.or_eq_true, Bool.and_eq_true,
    decide_eq_true_eq] at h
  rcases h with h | h
  · omega
  · split at h
    · omega
    · cases h

theorem bounds_of_isAddressChar {c : Char} (h : isAddressChar c = true) :
    0x21 ≤ c.toNat ∧ c.toNat ≤ 0x7A := by
  simp only [isAddressChar, isPathChar, isHostChar, Bool.or_eq_true, beq_iff_eq] at h
  rcases h with (((((((h | rfl) | rfl) | rfl) | rfl) | rfl) | rfl) | rfl) | rfl
  · have hbounds := bounds_of_isAsciiAlphanumeric h
    omega
  all_goals decide

theorem isAddressChar_of_isPathChar {c : Char} (h : isPathChar c = true) :
    isAddressChar c = true := by simp [isAddressChar, h]

theorem isAddressChar_of_isHostChar {c : Char} (h : isHostChar c = true) :
    isAddressChar c = true := isAddressChar_of_isPathChar (by simp [isPathChar, h])

theorem isAddressChar_of_isParameterChar {c : Char} (h : isParameterChar c = true) :
    isAddressChar c = true := by
  apply isAddressChar_of_isPathChar
  simp only [isParameterChar, isPathChar, isHostChar, Bool.or_eq_true] at h ⊢
  rcases h with (h | h) | h <;> simp [h]

section

variable (l : PageLink)

theorem isAddressChar_of_mem_query : ∀ c ∈ l.query, isAddressChar c = true := by
  intro c hc
  rcases mem_joinWith hc with hc | ⟨piece, hpiece, hc⟩
  · rw [List.mem_singleton.mp hc]
    rfl
  · obtain ⟨parameter, -, rfl⟩ := List.mem_map.mp hpiece
    rw [Parameter.written, List.mem_append, List.mem_cons] at hc
    rcases hc with hc | rfl | hc
    · exact isAddressChar_of_isParameterChar (parameter.name.all c hc)
    · rfl
    · exact isAddressChar_of_isParameterChar (parameter.value.all c hc)

theorem isAddressChar_of_mem_afterHost : ∀ c ∈ l.afterHost, isAddressChar c = true := by
  intro c hc
  rw [afterHost, List.mem_cons, List.mem_append, List.mem_cons] at hc
  rcases hc with rfl | hc | rfl | hc
  · rfl
  · exact isAddressChar_of_isPathChar (l.path_all c hc)
  · rfl
  · exact l.isAddressChar_of_mem_query c hc

theorem isAddressChar_of_mem_address : ∀ c ∈ l.address, isAddressChar c = true := by
  have hscheme : ∀ c ∈ "https://".toList, isAddressChar c = true :=
    List.all_eq_true.mp rfl
  intro c hc
  unfold address at hc
  rw [List.mem_append, List.mem_append] at hc
  rcases hc with hc | hc | hc
  · exact hscheme c hc
  · exact isAddressChar_of_isHostChar (l.host.all c hc)
  · exact l.isAddressChar_of_mem_afterHost c hc

/-! ## Reading addresses -/

/-- Nothing of an address is cleaned away. -/
theorem cleaned_address : Url.cleaned (String.ofList l.address) = l.address := by
  have hfilter : ∀ c ∈ l.address, (c != '\t' && c != '\n' && c != '\r') = true := by
    intro c hc
    have hbounds := bounds_of_isAddressChar (l.isAddressChar_of_mem_address c hc)
    have hne (d : Char) (hd : d.toNat < 0x21) : (c != d) = true := by
      rw [bne_iff_ne]
      rintro rfl
      omega
    rw [hne '\t' (by decide), hne '\n' (by decide), hne '\r' (by decide)]
    rfl
  have hdrop : l.address.dropWhile (·.toNat ≤ 0x20) = l.address := rfl
  rw [Url.cleaned, String.toList_ofList, hdrop, List.filter_eq_self.mpr hfilter]

theorem withoutScheme_address :
    Url.withoutScheme l.address = "//".toList ++ (l.host.text ++ l.afterHost) := by
  have hscheme : ':' ∉ "https".toList := by decide
  have hsplit : splitFirst ':' l.address =
      ("https".toList, some ("//".toList ++ (l.host.text ++ l.afterHost))) :=
    splitFirst_append hscheme _
  rw [Url.withoutScheme, hsplit]
  rfl

theorem splitAuthority_withoutScheme :
    Url.splitAuthority ("//".toList ++ (l.host.text ++ l.afterHost)) =
      (l.host.text, l.afterHost) := by
  have hhost : ∀ c ∈ l.host.text, (!Url.endsAuthority c) = true := by
    intro c hc
    have hne (d : Char) (hd : isHostChar d = false) : (c == d) = false := by
      rw [beq_eq_false_iff_ne]
      rintro rfl
      exact l.host.notMem hd hc
    rw [Url.endsAuthority, hne '/' rfl, hne '?' rfl, hne '#' rfl]
    rfl
  have htake : (l.host.text ++ l.afterHost).takeWhile (!Url.endsAuthority ·) = l.host.text := by
    rw [List.takeWhile_append_of_pos hhost]
    exact List.append_nil _
  have hdrop : (l.host.text ++ l.afterHost).dropWhile (!Url.endsAuthority ·) = l.afterHost := by
    rw [List.dropWhile_append_of_pos hhost]
    rfl
  exact Prod.ext htake hdrop

theorem usable_host : Url.Usable l.host.text := by
  refine .of_plain ?_ (l.host.notMem rfl) (l.host.notMem rfl)
  intro c hc
  have hbounds := bounds_of_isAddressChar (isAddressChar_of_isHostChar (l.host.all c hc))
  omega

/-- The query of a written address is the one that was written. -/
theorem query_address : Url.query (String.ofList l.address) = .ok l.query := by
  have hsplit : Url.splitAuthority (Url.withoutScheme (Url.cleaned (String.ofList l.address))) =
      (l.host.text, l.afterHost) := by
    rw [cleaned_address, withoutScheme_address, splitAuthority_withoutScheme]
  have hfragment : '#' ∉ l.afterHost := by
    intro hmem
    cases l.isAddressChar_of_mem_afterHost _ hmem
  have hpath : '?' ∉ '/' :: l.path := by
    rw [List.mem_cons, not_or]
    refine ⟨by decide, fun hmem ↦ ?_⟩
    cases l.path_all _ hmem
  have hquery : splitFirst '?' l.afterHost = ('/' :: l.path, some l.query) :=
    splitFirst_append hpath l.query
  rw [Url.query_of_usable hsplit l.usable_host, splitFirst_of_notMem hfragment, hquery]
  rfl

theorem Parameter.parameter?_written (p : Parameter) :
    Url.parameter? p.written = some (String.ofList p.name.text, String.ofList p.value.text) := by
  rw [written, Url.parameter?_append (p.name.notMem rfl) p.value.ne_nil,
    Url.decodeComponent_of_plain (p.name.notMem rfl) (p.name.notMem rfl),
    Url.decodeComponent_of_plain (p.value.notMem rfl) (p.value.notMem rfl)]

theorem parameters_query : Url.parameters l.query =
    l.parameters.map fun p ↦ (String.ofList p.name.text, String.ofList p.value.text) := by
  have hpieces : ∀ piece ∈ l.parameters.map Parameter.written, '&' ∉ piece := by
    intro piece hpiece
    obtain ⟨parameter, -, rfl⟩ := List.mem_map.mp hpiece
    rw [Parameter.written, List.mem_append, List.mem_cons, not_or, not_or]
    exact ⟨parameter.name.notMem rfl, by decide, parameter.value.notMem rfl⟩
  rw [query, Url.parameters_joinWith hpieces, List.filterMap_map]
  simp [Parameter.parameter?_written]

/-- The page is read from the first parameter for it. -/
theorem lookup_page (parameters : List Parameter) :
    (parameters.map fun p ↦ (String.ofList p.name.text, String.ofList p.value.text)).lookup "page" =
      (parameters.find? Parameter.isPage).map fun p ↦ String.ofList p.value.text := by
  induction parameters with
  | nil => rfl
  | cons p parameters ih =>
    have hname : ("page" == String.ofList p.name.text) = p.isPage := by
      rw [Parameter.isPage, Bool.eq_iff_iff, beq_iff_eq, beq_iff_eq, eq_comm,
        ← String.toList_inj, @String.toList_ofList p.name.text]
    rw [List.map_cons, List.lookup_cons, List.find?_cons, hname, ih]
    cases p.isPage <;> rfl

theorem Parameter.readInt_value {p : Parameter} (h : p.isPage = true) :
    Numeral.readInt (String.ofList p.value.text) = .ok p.number := by
  obtain ⟨hdigits, hlength⟩ := p.digits (beq_iff_eq.mp h)
  exact Numeral.readInt_signed p.value.ne_nil hdigits hlength false

/-- A written link names the page that was written. -/
theorem page_link : l.link.page = .ok l.page? := by
  have haddress : l.link.address = String.ofList l.address := rfl
  rw [Link.page, haddress, query_address]
  show Except.ok _ = _
  rw [parameters_query, lookup_page, page?]
  cases hpage : l.parameters.find? Parameter.isPage with
  | none => rfl
  | some p =>
    have hread := Parameter.readInt_value (List.find?_some hpage)
    exact congrArg (fun read ↦ Except.ok read.toOption) hread

theorem isNext_link : l.link.isNext = l.isNext := by
  have hrelation : l.link.value? "rel" = some (String.ofList l.relation.text) := rfl
  rw [Link.isNext, hrelation, isNext, Bool.eq_iff_iff, beq_iff_eq, beq_iff_eq, Option.some.injEq,
    ← String.toList_inj, @String.toList_ofList l.relation.text, Link.nextRelation]

/-! ## Reading headers -/

theorem surroundsTarget_of_isAddressChar {c : Char} (h : isAddressChar c = true) :
    Link.surroundsTarget c = false := by
  rw [Bool.eq_false_iff]
  intro hsurrounds
  simp only [Link.surroundsTarget, Link.isPadding, Bool.or_eq_true, beq_iff_eq] at hsurrounds
  rcases hsurrounds with (((rfl | rfl) | rfl) | rfl) | rfl <;> cases h

theorem isPadding_of_isRelationChar {c : Char} (h : isRelationChar c = true) :
    Link.isPadding c = false := by
  rw [Bool.eq_false_iff]
  intro hpadding
  simp only [Link.isPadding, Bool.or_eq_true, beq_iff_eq] at hpadding
  rcases hpadding with (rfl | rfl) | rfl <;> cases h

/-- The quote at the end does not matter. -/
theorem ofPiece_body {quotes : List Char} (h : ∀ c ∈ quotes, c = '"') :
    Link.ofPiece (l.body ++ quotes) = l.link := by
  rw [body, List.append_assoc, List.append_assoc]
  refine Link.ofPiece_append ?_ ?_ h
  · intro c hc
    have haddress := l.isAddressChar_of_mem_address c hc
    refine ⟨surroundsTarget_of_isAddressChar haddress, ?_⟩
    rintro rfl
    cases haddress
  · intro c hc
    have hrelation := l.relation.all c hc
    refine ⟨isPadding_of_isRelationChar hrelation, ?_, ?_⟩
    · rintro rfl
      cases hrelation
    · rintro rfl
      cases hrelation

theorem comma_notMem_body : ',' ∉ l.body := by
  rw [body, List.mem_append, List.mem_append, not_or, not_or]
  refine ⟨fun hmem ↦ ?_, by decide, l.relation.notMem rfl⟩
  cases l.isAddressChar_of_mem_address _ hmem

end

/-- The header, with the bracket of each link counted to what stands in front of the link. -/
theorem rendered_concat (links : List PageLink) (last : PageLink) :
    rendered (links ++ [last]) = '<' ::
      (joinWith ", <".toList (links.map (fun l ↦ l.body ++ ['"']) ++ [last.body]) ++ ['"']) := by
  have hmap : (links ++ [last]).map written =
      (links.map (fun l ↦ l.body ++ ['"']) ++ [last.body ++ ['"']]).map ('<' :: ·) := by
    rw [List.map_append, List.map_append, List.map_map]
    rfl
  have hne : links.map (fun l ↦ l.body ++ ['"']) ++ [last.body ++ ['"']] ≠ [] := by simp
  rw [rendered, hmap, joinWith_map_cons _ _ hne]
  exact congrArg ('<' :: ·) (joinWith_concat_append _ _ _ _)

/-- Trimming a header takes nothing away but the quote at its end. -/
theorem trimList_rendered (pieces : List (List Char)) (last : PageLink) :
    trimList Link.isPadding ('<' :: (joinWith ", <".toList (pieces ++ [last.body]) ++ ['"'])) =
      '<' :: joinWith ", <".toList (pieces ++ [last.body]) := by
  have hbefore : ∀ c ∈ ([] : List Char), Link.isPadding c = true := List.forall_mem_nil _
  have hafter : ∀ c ∈ ['"'], Link.isPadding c = true := List.forall_mem_singleton.mpr rfl
  rw [← List.cons_append, ← List.nil_append (_ ++ ['"'])]
  refine trimList_between hbefore hafter ?_ ?_
  · rintro _ ⟨⟩
    rfl
  · intro c hc
    rw [body, ← List.append_assoc, joinWith_concat_append, ← List.cons_append,
      List.getLast?_append_of_ne_nil _ last.relation.ne_nil] at hc
    exact isPadding_of_isRelationChar (last.relation.all c (List.mem_of_getLast? hc))

end PageLink

/-- The links of a written header are those that were written. -/
theorem Link.parse_rendered (links : List PageLink) :
    parse (String.ofList (PageLink.rendered links)) = links.map PageLink.link := by
  rcases List.eq_nil_or_concat' links with rfl | ⟨init, last, rfl⟩
  · rfl
  · have hpieces : ∀ piece ∈ init.map (fun l ↦ l.body ++ ['"']) ++ [last.body], ',' ∉ piece := by
      simp only [List.mem_append, List.mem_map, List.mem_singleton]
      rintro piece (⟨l, -, rfl⟩ | rfl)
      · rw [List.mem_append, not_or]
        exact ⟨l.comma_notMem_body, by decide⟩
      · exact last.comma_notMem_body
    have hinit (l : PageLink) : ofPiece (l.body ++ ['"']) = l.link :=
      l.ofPiece_body fun c hc ↦ List.mem_singleton.mp hc
    have hlast : ofPiece last.body = last.link := by
      rw [← List.append_nil last.body]
      exact last.ofPiece_body (List.forall_mem_nil _)
    rw [parse, String.toList_ofList, PageLink.rendered_concat, PageLink.trimList_rendered]
    show (cut ('<' :: _)).map ofPiece = _
    rw [map_ofPiece_cut_cons, cut_joinWith (by simp) hpieces]
    simp [Function.comp_def, hinit, hlast]

namespace Headers

/-- Headers of other names make no difference in front of the links, and none at all after them. -/
theorem linkText_append {before : Headers} {name : String}
    (hbefore : ∀ field ∈ before, Text.lower field.1 ≠ "link") (hname : Text.lower name = "link")
    (value : Value) (after : Headers) :
    linkText (before ++ (name, value) :: after) = value.asText := by
  have hnone : before.find? (fun field ↦ Text.lower field.1 == "link") = none := by
    rw [List.find?_eq_none]
    intro field hfield hlink
    exact hbefore field hfield (beq_iff_eq.mp hlink)
  rw [linkText, List.find?_append, hnone, Option.none_or, List.find?_cons, beq_iff_eq.mpr hname]

/-- The page that follows is read from written links: it is the one that the first link to a
next page names with its first parameter for a page.  Neither the letters of the name of the
header nor other headers make a difference. -/
theorem nextPage_rendered {before : Headers} {name : String}
    (hbefore : ∀ field ∈ before, Text.lower field.1 ≠ "link") (hname : Text.lower name = "link")
    (links : List PageLink) (after : Headers) :
    nextPage (before ++ (name, .text (String.ofList (PageLink.rendered links))) :: after) =
      .ok ((links.find? PageLink.isNext).bind PageLink.page?) := by
  have hisNext : Link.isNext ∘ PageLink.link = PageLink.isNext := by
    funext l
    exact l.isNext_link
  rw [nextPage, linkText_append hbefore hname, Value.asText, Link.parse_rendered,
    List.find?_map, hisNext]
  cases links.find? PageLink.isNext with
  | none => rfl
  | some l => exact l.page_link

/-- Each letter of the name may stand in either case. -/
theorem lower_name {name : String} (h : name.toLower = "link") : Text.lower name = "link" :=
  lower_of_toLower (by decide) h

end Headers

namespace PageLink

/-- A page of the files of a pull request. -/
def files (parameters : List Parameter) (relation : Word isRelationChar) : PageLink where
  host := .ofString "api.github.com" (by decide) rfl
  path := "repos/octo/relay/pulls/7/files".toList
  path_all := List.all_eq_true.mp rfl
  parameters
  relation

namespace Parameter

def perPage : Parameter where
  name := .ofString "per_page" (by decide) rfl
  value := .ofString "50" (by decide) rfl
  digits := nofun

def pageTwelve : Parameter where
  name := .ofString "page" (by decide) rfl
  value := .ofString "12" (by decide) rfl
  digits _ := ⟨List.all_eq_true.mp rfl, by decide⟩

def pageOne : Parameter where
  name := .ofString "page" (by decide) rfl
  value := .ofString "01" (by decide) rfl
  digits _ := ⟨List.all_eq_true.mp rfl, by decide⟩

end Parameter

/-- A link back, one to the next page that gives the page twice, and one that gives none. -/
def sample : List PageLink := [
  files [.perPage, .pageOne] (.ofString "prev" (by decide) rfl),
  files [.perPage, .pageTwelve, .pageOne] (.ofString "next" (by decide) rfl),
  files [.perPage] (.ofString "next" (by decide) rfl)]

end PageLink

theorem Headers.nextPage_rendered_sample :
    let before : Headers := [("Server", .text "proxy"), ("X-Link", .null)]
    (∀ field ∈ before, Text.lower field.1 ≠ "link") ∧ Text.lower "lINk" = "link" ∧
    nextPage (before ++
      ("lINk", .text (String.ofList (PageLink.rendered PageLink.sample))) :: [("Link", .text "")]) =
      .ok (some 12) := by
  intro before
  have hbefore : ∀ field ∈ before, Text.lower field.1 ≠ "link" := by decide +kernel
  have hname : Text.lower "lINk" = "link" := lower_name (by decide +kernel)
  exact ⟨hbefore, hname, nextPage_rendered hbefore hname PageLink.sample [("Link", .text "")]⟩

end PullRelay
