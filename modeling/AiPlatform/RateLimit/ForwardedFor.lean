import Mathlib.Data.List.GetD
import AiPlatform.RateLimit.IpMiddleware

set_option autoImplicit false

/- The `X-Forwarded-For` lines of a request on its way through the trusted proxies. A client may
have sent any lines. Each proxy then appends the address that it was called from, to the last line
or as a line of its own. -/
namespace AiPlatform.RateLimit

open IPRateLimitMiddleware

/-- The `X-Forwarded-For` lines, in order. -/
def forwardedLines (headers : List (Bytes × Bytes)) : List Bytes :=
  (headers.filter fun header => header.1 = bytes "x-forwarded-for").map Prod.snd

/-- What a proxy appends: one address, blanks around it included. -/
structure Hop where
  value : Bytes
  commaFree : ',' ∉ (decodeLatin1 value).toList
  named : Text.strip (decodeLatin1 value) ≠ ""

def Hop.address (hop : Hop) : String := Text.strip (decodeLatin1 hop.value)

inductive Placement
  | lastLine
  | newLine
deriving DecidableEq, Repr

/-- One proxy. Without a line to extend it adds one. -/
def appendHop (lines : List Bytes) (placed : Placement × Hop) : List Bytes :=
  match placed.1, lines.getLast? with
  | .lastLine, some line => lines.dropLast ++ [line ++ bytes "," ++ placed.2.value]
  | _, _ => lines ++ [placed.2.value]

/-- All proxies, the one nearest to the client first. -/
def appendHops (lines : List Bytes) (placed : List (Placement × Hop)) : List Bytes :=
  placed.foldl appendHop lines

def lineHops (line : Bytes) : List String := Text.splitStripped (decodeLatin1 line) ','

theorem hops_eq (headers : List (Bytes × Bytes)) :
    hops headers = (forwardedLines headers).flatMap lineHops := by
  unfold hops forwardedLines
  rw [List.flatMap_map]
  rfl

theorem decodeLatin1_toList (value : Bytes) :
    (decodeLatin1 value).toList = value.map fun byte => Char.ofNat byte.toNat :=
  String.toList_ofList

theorem lineHops_value (hop : Hop) : lineHops hop.value = [hop.address] :=
  Text.splitStripped_single hop.commaFree hop.named

/-- An address after a comma is an entry of its own, whatever stands before. -/
theorem lineHops_extended (line : Bytes) (hop : Hop) :
    lineHops (line ++ bytes "," ++ hop.value) = lineHops line ++ [hop.address] := by
  have letters : decodeLatin1 (line ++ bytes "," ++ hop.value) = String.ofList
      ((decodeLatin1 line).toList ++ ',' :: (decodeLatin1 hop.value).toList) := by
    simp only [decodeLatin1_toList]
    unfold decodeLatin1
    rw [List.map_append, List.map_append, List.append_assoc]
    rfl
  have own : Text.splitStripped (decodeLatin1 hop.value) ',' = [hop.address] := lineHops_value hop
  unfold lineHops
  rw [letters, Text.splitStripped_append, String.ofList_toList, String.ofList_toList, own]

theorem appendHop_hops (lines : List Bytes) (placed : Placement × Hop) :
    (appendHop lines placed).flatMap lineHops =
      lines.flatMap lineHops ++ [placed.2.address] := by
  have added : (lines ++ [placed.2.value]).flatMap lineHops =
      lines.flatMap lineHops ++ [placed.2.address] := by
    rw [List.flatMap_append, List.flatMap_singleton, lineHops_value]
  unfold appendHop
  split
  · rename_i line _ ended
    have whole : lines = lines.dropLast ++ [line] := by
      have ⟨start, shape⟩ := List.getLast?_eq_some_iff.mp ended
      rw [shape, List.dropLast_concat]
    rw [List.flatMap_append, List.flatMap_singleton, lineHops_extended, ← List.append_assoc]
    congr 1
    conv => rhs; rw [whole, List.flatMap_append, List.flatMap_singleton]
  · exact added

theorem appendHops_hops (lines : List Bytes) (placed : List (Placement × Hop)) :
    (appendHops lines placed).flatMap lineHops =
      lines.flatMap lineHops ++ placed.map fun each => each.2.address := by
  induction placed generalizing lines with
  | nil => exact (List.append_nil _).symm
  | cons first rest ih =>
      have stepped := ih (appendHop lines first)
      rw [appendHop_hops, List.append_assoc] at stepped
      exact stepped

/-- Behind `trusted_proxy_count` proxies the address is the one that the first of them was called
from, and without proxies it is the peer's: nothing that the client sent has a part in it. -/
theorem extractClientIp_trusted (middleware : IPRateLimitMiddleware) (scope : Scope) :
    (∀ sent first rest, middleware.trustedProxyCount = rest.length + 1 →
      forwardedLines scope.headers = appendHops sent (first :: rest) →
      middleware.extractClientIp scope = first.2.address) ∧
    (middleware.trustedProxyCount = 0 → ∀ headers,
      middleware.extractClientIp { scope with headers := headers } =
        middleware.extractClientIp scope) := by
  constructor
  · intro sent first rest count arrived
    have entries : hops scope.headers = sent.flatMap lineHops ++
        first.2.address :: rest.map fun each => each.2.address := by
      rw [hops_eq, arrived, appendHops_hops, List.map_cons]
    have enough : ¬(hops scope.headers).length < middleware.trustedProxyCount := by
      simp only [entries, List.length_append, List.length_cons, List.length_map]
      omega
    have skipped : (hops scope.headers).length - middleware.trustedProxyCount =
        (sent.flatMap lineHops).length := by
      simp only [entries, List.length_append, List.length_cons, List.length_map]
      omega
    unfold extractClientIp
    dsimp only
    rw [if_neg (by omega), if_neg enough, skipped, entries, List.getD_append_right _ _ _ _ le_rfl,
      Nat.sub_self]
    rfl
  · intro direct headers
    unfold extractClientIp
    dsimp only
    rw [if_pos direct, if_pos direct]

/-- A client behind two proxies that sends an address of its own choice. -/
theorem extractClientIp_trusted_forged :
    IPRateLimitMiddleware.extractClientIp ⟨[], 2⟩ {
      type := .http
      headers := [(bytes "x-forwarded-for", bytes "1.1.1.1, ,2.2.2.2, 10.0.0.7"),
        (bytes "x-forwarded-for", bytes "10.1.0.1")] } = "10.0.0.7" := by
  let nearest : Hop := ⟨bytes " 10.0.0.7", by decide +kernel, by decide +kernel⟩
  let second : Hop := ⟨bytes "10.1.0.1", by decide +kernel, by decide +kernel⟩
  have address : nearest.address = "10.0.0.7" := by decide +kernel
  rw [← address]
  apply (extractClientIp_trusted _ _).1 [bytes "1.1.1.1, ,2.2.2.2"] (.lastLine, nearest)
    [(.newLine, second)] rfl
  decide +kernel

end AiPlatform.RateLimit
