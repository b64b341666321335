import PullRelay.Proofs.Text.Pieces
import PullRelay.Proofs.Text.Utf8
import PullRelay.Url.Query

/-!
# Parameters that are written plainly

Names and values without escapes stand for themselves in a query.
-/

namespace PullRelay.Url

open Text

/-- Without a percent sign there is nothing to resolve. -/
theorem Percent.bytes_of_notMem {cs : List Char} (h : '%' ∉ cs) : bytes cs = Utf8.encode cs := by
  fun_induction bytes cs with
  | case1 => rfl
  | case2 c => simp [Utf8.encode]
  | case3 c d => simp [Utf8.encode]
  | case4 => exact absurd List.mem_cons_self h
  | case5 => exact absurd List.mem_cons_self h
  | case6 c a b rest hc ih =>
    rw [ih (fun hmem ↦ h (List.mem_cons_of_mem c hmem))]
    rfl

theorem decodeComponent_of_plain {cs : List Char} (hplus : '+' ∉ cs) (hpercent : '%' ∉ cs) :
    decodeComponent cs = String.ofList cs := by
  have hmap : cs.map (fun c ↦ if c = '+' then ' ' else c) = cs := by
    refine (List.map_congr_left fun c hc ↦ if_neg ?_).trans (List.map_id cs)
    rintro rfl
    exact hplus hc
  rw [decodeComponent, hmap, Percent.decode, Percent.bytes_of_notMem hpercent,
    Utf8.decode_encode]

theorem parameter?_append {name value : List Char} (hname : '=' ∉ name) (hvalue : value ≠ []) :
    parameter? (name ++ '=' :: value) = some (decodeComponent name, decodeComponent value) := by
  cases value with
  | nil => exact absurd rfl hvalue
  | cons c value => rw [parameter?, splitFirst_append hname]

/-- The parameters between ampersands, one after the other.  An empty query has none. -/
theorem parameters_joinWith {pieces : List (List Char)} (h : ∀ piece ∈ pieces, '&' ∉ piece) :
    parameters (joinWith ['&'] pieces) = pieces.filterMap parameter? := by
  by_cases hne : pieces = []
  · rw [hne]
    rfl
  · rw [parameters, splitAll_joinWith hne h]

end PullRelay.Url
