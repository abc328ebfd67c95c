import CipherString.Host
import Mathlib.Data.List.Induction
import Mathlib.Data.List.Nodup

/-!
Host catalogs that are kept for later requests. What is kept shows only in that a request which has
succeeded gives the very same catalog again. Each request has the outcome that the host alone gives
it; a catalog is made once for each request, as it was written, that succeeds, and once for each
failure; and a failure leaves nothing behind.
-/

namespace CipherString

namespace HostCache

/-- A request with the answer to it and the cache after it. -/
structure Call where
  request : HostRequest
  answer : Logged (Nat × Catalog)
  cache : HostCache

def Call.succeeds (call : Call) : Bool :=
  call.answer.outcome.isOk

/-- Requests to a host from a cache on, each with its answer. -/
def callsFrom (host : Host) (cache : HostCache) (l : List HostRequest) : List Call :=
  (l.zip (requests host cache l)).map fun entry => ⟨entry.1, entry.2.1, entry.2.2⟩

/-- Requests to a host of which nothing is kept yet. -/
def calls (host : Host) (l : List HostRequest) : List Call :=
  callsFrom host {} l

/-- The requests that have succeeded, each once and in the order in which they first did. -/
def granted (calls : List Call) : List HostRequest :=
  Distinct.firsts ((calls.filter Call.succeeds).map Call.request)

/-- What is to hold of a cache after the calls of its past, and of these calls. -/
structure Records (host : Host) (past : List Call) (cache : HostCache) : Prop where
  outcome : ∀ call ∈ past, call.answer.outcome.map Prod.snd =
    (host.catalog call.request.cipherString).outcome
  place : ∀ call ∈ past, ∀ place c, call.answer.outcome = .ok (place, c) →
    cache.kept[place]? = some (call.request, c)
  keys : cache.kept.map Prod.fst = granted past
  catalogs : ∀ entry ∈ cache.kept, (host.catalog entry.1.cipherString).outcome = .ok entry.2
  made : cache.made = past.countP (!·.succeeds) + cache.kept.length

variable {host : Host} {cache : HostCache} {past : List Call} {r : HostRequest}

section Request

theorem getElem?_of_find? {place : Nat} {c : Catalog} (h : cache.find? r = some (place, c)) :
    cache.kept[place]? = some (r, c) := by
  obtain ⟨⟨entry, i⟩, hfind, heq⟩ := Option.map_eq_some_iff.mp h
  obtain ⟨rfl, rfl⟩ := Prod.mk.inj heq
  obtain rfl : entry.1 = r := by simpa using List.find?_some hfind
  exact List.mem_zipIdx_iff_getElem?.mp (List.mem_of_find?_eq_some hfind)

theorem not_mem_keys_of_find? (h : cache.find? r = none) : r ∉ cache.kept.map Prod.fst := by
  intro hmem
  obtain ⟨entry, hentry, rfl⟩ := List.mem_map.mp hmem
  obtain ⟨i, hi⟩ := List.mem_iff_getElem?.mp hentry
  have hnone := List.find?_eq_none.mp (Option.map_eq_none_iff.mp h)
  exact hnone (entry, i) (List.mem_zipIdx_iff_getElem?.mpr hi) (decide_eq_true rfl)

/-- A request is answered from what is kept; or the host grants it, and the catalog is kept; or it
fails, and nothing but the count of makings changes. -/
theorem request_cases (host : Host) (cache : HostCache) (r : HostRequest) :
    (∃ place c, cache.kept[place]? = some (r, c) ∧
      cache.request host r = (pure (place, c), cache)) ∨
    (r ∉ cache.kept.map Prod.fst ∧ ∃ c, (host.catalog r.cipherString).outcome = .ok c ∧
      cache.request host r =
        (⟨(host.catalog r.cipherString).notices, .ok (cache.kept.length, c)⟩,
          ⟨cache.kept ++ [(r, c)], cache.made + 1⟩)) ∨
    (r ∉ cache.kept.map Prod.fst ∧
      ∃ fault, (host.catalog r.cipherString).outcome = .error fault ∧
        cache.request host r =
          (⟨(host.catalog r.cipherString).notices, .error fault⟩,
            ⟨cache.kept, cache.made + 1⟩)) := by
  rw [request]
  cases hfind : cache.find? r with
  | some found => exact Or.inl ⟨found.1, found.2, getElem?_of_find? hfind, rfl⟩
  | none =>
      have hkeys := not_mem_keys_of_find? hfind
      cases houtcome : (host.catalog r.cipherString).outcome with
      | ok c => exact Or.inr (Or.inl ⟨hkeys, c, rfl, by simp only [houtcome]⟩)
      | error fault => exact Or.inr (Or.inr ⟨hkeys, fault, rfl, by simp only [houtcome]⟩)

end Request

section Granted

variable {call : Call}

theorem granted_concat_of_fails (h : call.succeeds = false) :
    granted (past ++ [call]) = granted past := by
  simp [granted, h]

theorem granted_concat_of_mem (h : call.succeeds) (hmem : call.request ∈ granted past) :
    granted (past ++ [call]) = granted past := by
  have hfilter : [call].filter Call.succeeds = [call] := by simp [h]
  rw [granted, List.filter_append, List.map_append, hfilter]
  exact Distinct.firsts_concat_of_mem (Distinct.mem_firsts.mp hmem)

theorem granted_concat_of_not_mem (h : call.succeeds) (hmem : call.request ∉ granted past) :
    granted (past ++ [call]) = granted past ++ [call.request] := by
  have hfilter : [call].filter Call.succeeds = [call] := by simp [h]
  rw [granted, List.filter_append, List.map_append, hfilter]
  exact Distinct.firsts_concat_of_not_mem (mt Distinct.mem_firsts.mpr hmem)

end Granted

section Step

variable {place : Nat} {c : Catalog} {fault : Fault} {notices : List Notice}

theorem records_empty (host : Host) : Records host [] {} where
  outcome := nofun
  place := nofun
  keys := rfl
  catalogs := nofun
  made := rfl

theorem Records.hit (h : Records host past cache) (hkept : cache.kept[place]? = some (r, c)) :
    Records host (past ++ [⟨r, pure (place, c), cache⟩]) cache := by
  have hentry : (r, c) ∈ cache.kept := List.mem_of_getElem? hkept
  have hkey : r ∈ granted past := h.keys ▸ List.mem_map_of_mem hentry
  refine ⟨?_, ?_, ?_, h.catalogs, ?_⟩
  · rw [List.forall_mem_append, List.forall_mem_singleton]
    exact ⟨h.outcome, (h.catalogs _ hentry).symm⟩
  · rw [List.forall_mem_append, List.forall_mem_singleton]
    refine ⟨h.place, ?_⟩
    rintro _ _ ⟨⟩
    exact hkept
  · rw [h.keys, granted_concat_of_mem rfl hkey]
  · rw [List.countP_append, h.made]
    rfl

theorem Records.grant (h : Records host past cache) (hkey : r ∉ cache.kept.map Prod.fst)
    (hok : (host.catalog r.cipherString).outcome = .ok c) :
    Records host
      (past ++ [⟨r, ⟨notices, .ok (cache.kept.length, c)⟩,
        ⟨cache.kept ++ [(r, c)], cache.made + 1⟩⟩])
      ⟨cache.kept ++ [(r, c)], cache.made + 1⟩ := by
  refine ⟨?_, ?_, ?_, ?_, ?_⟩
  · rw [List.forall_mem_append, List.forall_mem_singleton]
    exact ⟨h.outcome, hok.symm⟩
  · rw [List.forall_mem_append, List.forall_mem_singleton]
    constructor
    · intro call hcall place d hplace
      have hold := h.place call hcall place d hplace
      rw [List.getElem?_append_left (List.getElem?_eq_some_iff.mp hold).1, hold]
    · rintro _ _ ⟨⟩
      exact List.getElem?_concat_length
  · rw [h.keys] at hkey
    rw [List.map_append, h.keys, granted_concat_of_not_mem rfl hkey]
    rfl
  · rw [List.forall_mem_append, List.forall_mem_singleton]
    exact ⟨h.catalogs, hok⟩
  · rw [List.countP_append, List.length_append, h.made]
    rfl

theorem Records.failure (h : Records host past cache)
    (hfail : (host.catalog r.cipherString).outcome = .error fault) :
    Records host (past ++ [⟨r, ⟨notices, .error fault⟩, ⟨cache.kept, cache.made + 1⟩⟩])
      ⟨cache.kept, cache.made + 1⟩ := by
  refine ⟨?_, ?_, ?_, h.catalogs, ?_⟩
  · rw [List.forall_mem_append, List.forall_mem_singleton]
    exact ⟨h.outcome, hfail.symm⟩
  · rw [List.forall_mem_append, List.forall_mem_singleton]
    exact ⟨h.place, nofun⟩
  · rw [granted_concat_of_fails rfl]
    exact h.keys
  · rw [List.countP_append, h.made]
    exact Nat.add_right_comm _ _ _

theorem Records.request (h : Records host past cache) (r : HostRequest) :
    Records host
      (past ++ [⟨r, (cache.request host r).1, (cache.request host r).2⟩])
      (cache.request host r).2 := by
  rcases request_cases host cache r with
    ⟨place, c, hkept, heq⟩ | ⟨hkey, c, hok, heq⟩ | ⟨-, fault, hfail, heq⟩
  · rw [heq]
    exact h.hit hkept
  · rw [heq]
    exact h.grant hkey hok
  · rw [heq]
    exact h.failure hfail

end Step

section Run

/-- The cache after requests. -/
def after (host : Host) (cache : HostCache) (l : List HostRequest) : HostCache :=
  l.foldl (fun cache r => (cache.request host r).2) cache

theorem callsFrom_append (host : Host) (cache : HostCache) (l m : List HostRequest) :
    callsFrom host cache (l ++ m) =
      callsFrom host cache l ++ callsFrom host (after host cache l) m := by
  induction l generalizing cache with
  | nil => rfl
  | cons r l ih => exact congrArg (_ :: ·) (ih (cache.request host r).2)

theorem map_request_callsFrom (host : Host) (cache : HostCache) (l : List HostRequest) :
    (callsFrom host cache l).map Call.request = l := by
  induction l generalizing cache with
  | nil => rfl
  | cons r l ih => exact congrArg (r :: ·) (ih (cache.request host r).2)

theorem records_calls (host : Host) (l : List HostRequest) :
    Records host (calls host l) (after host {} l) := by
  induction l using List.reverseRecOn with
  | nil => exact records_empty host
  | append_singleton l r ih =>
      have hafter : after host {} (l ++ [r]) = ((after host {} l).request host r).2 :=
        List.foldl_append
      rw [calls, callsFrom_append, hafter]
      exact ih.request r

/-- A call is the answer of the cache that those before it lead to, and those after it go on from
the cache that it leaves. -/
theorem calls_split {l : List HostRequest} {before rest : List Call} {call : Call}
    (h : calls host l = before ++ call :: rest) :
    calls host (before.map Call.request) = before ∧
      call.answer =
        ((after host {} (before.map Call.request)).request host call.request).1 ∧
      call.cache =
        ((after host {} (before.map Call.request)).request host call.request).2 ∧
      rest = callsFrom host call.cache (rest.map Call.request) := by
  have hl : l = before.map Call.request ++ call.request :: rest.map Call.request := by
    rw [← map_request_callsFrom host {} l, ← calls, h, List.map_append, List.map_cons]
  have hlength : (calls host (before.map Call.request)).length = before.length := by
    rw [← List.length_map Call.request, calls, map_request_callsFrom, List.length_map]
  rw [hl, calls, callsFrom_append] at h
  obtain ⟨hbefore, htail⟩ := List.append_inj h hlength
  obtain ⟨hcall, hrest⟩ := List.cons.inj htail
  refine ⟨hbefore, ?_, ?_, ?_⟩
  · rw [← hcall]
  · rw [← hcall]
  · rw [← hcall]
    exact hrest.symm

theorem request_congr {other : HostCache} (host : Host) (h : cache.kept = other.kept)
    (r : HostRequest) :
    (cache.request host r).1 = (other.request host r).1 ∧
      (cache.request host r).2.kept = (other.request host r).2.kept := by
  have hfind : cache.find? r = other.find? r := by rw [find?, find?, h]
  rw [request, request, hfind]
  cases other.find? r with
  | some found => exact ⟨rfl, h⟩
  | none =>
      cases houtcome : (host.catalog r.cipherString).outcome with
      | ok c => simp only [houtcome, h, and_self]
      | error fault => simp only [houtcome, h, and_self]

/-- The answers depend on what is kept alone, and not on how often a catalog was made. -/
theorem map_answer_callsFrom_congr {other : HostCache} (h : cache.kept = other.kept)
    (l : List HostRequest) :
    (callsFrom host cache l).map Call.answer = (callsFrom host other l).map Call.answer := by
  induction l generalizing cache other with
  | nil => rfl
  | cons r l ih =>
      obtain ⟨hanswer, hkept⟩ := request_congr host h r
      exact congrArg₂ List.cons hanswer (ih hkept)

theorem answers_without_failure {l : List HostRequest} {before rest : List Call} {call : Call}
    (h : calls host l = before ++ call :: rest) (hfail : call.succeeds = false) :
    call.answer.notices = (host.catalog call.request.cipherString).notices ∧
      (calls host ((before ++ rest).map Call.request)).map Call.answer =
        (before ++ rest).map Call.answer := by
  obtain ⟨hbefore, hanswer, hcache, hrest⟩ := calls_split h
  rcases request_cases host (after host {} (before.map Call.request)) call.request with
    ⟨place, c, -, heq⟩ | ⟨-, c, -, heq⟩ | ⟨-, fault, -, heq⟩
  · rw [Call.succeeds, hanswer, heq] at hfail
    exact absurd hfail nofun
  · rw [Call.succeeds, hanswer, heq] at hfail
    exact absurd hfail nofun
  · rw [heq] at hanswer hcache
    have hkept : (after host {} (before.map Call.request)).kept = call.cache.kept := by rw [hcache]
    constructor
    · rw [hanswer]
    · rw [List.map_append, calls, callsFrom_append, ← calls, hbefore, List.map_append,
        List.map_append, map_answer_callsFrom_congr hkept, ← hrest]

theorem Records.place_eq_iff (h : Records host past cache) {call other : Call}
    (hcall : call ∈ past) (hother : other ∈ past) {place otherPlace : Nat} {c d : Catalog}
    (hc : call.answer.outcome = .ok (place, c))
    (hd : other.answer.outcome = .ok (otherPlace, d)) :
    place = otherPlace ↔ call.request = other.request := by
  have hplace := h.place call hcall place c hc
  have hotherPlace := h.place other hother otherPlace d hd
  constructor
  · rintro rfl
    rw [hplace] at hotherPlace
    exact congrArg Prod.fst (Option.some.inj hotherPlace)
  · intro hrequest
    have hnodup : (cache.kept.map Prod.fst).Nodup := h.keys ▸ Distinct.nodup_firsts _
    have hlt : place < (cache.kept.map Prod.fst).length := by
      rw [List.length_map]
      exact (List.getElem?_eq_some_iff.mp hplace).1
    apply (List.getElem?_inj hlt hnodup).mp
    rw [List.getElem?_map, List.getElem?_map, hplace, hotherPlace]
    exact congrArg some hrequest

end Run

/-- To whoever asks, a host that keeps its catalogs is one that does not: each request has the
outcome that the host alone gives it. Two requests that succeed give one and the same catalog
exactly if they are written in the same way. A catalog is made once for each failure so far and once
for each request that has succeeded so far, however often. A request that fails reports what it
reports to whoever asks the host, and without it all other answers would be the same. -/
theorem calls_transparent (host : Host) (l : List HostRequest) :
    (calls host l).map Call.request = l ∧
    (∀ call ∈ calls host l, call.answer.outcome.map Prod.snd =
      (host.catalog call.request.cipherString).outcome) ∧
    (∀ call ∈ calls host l, ∀ other ∈ calls host l, ∀ place c otherPlace d,
      call.answer.outcome = .ok (place, c) → other.answer.outcome = .ok (otherPlace, d) →
        (place = otherPlace ↔ call.request = other.request)) ∧
    ∀ before call rest, calls host l = before ++ call :: rest →
      call.cache.made =
        (before ++ [call]).countP (!·.succeeds) + (granted (before ++ [call])).length ∧
      (call.succeeds = false →
        call.answer.notices = (host.catalog call.request.cipherString).notices ∧
        (calls host ((before ++ rest).map Call.request)).map Call.answer =
          (before ++ rest).map Call.answer) := by
  have hrecords := records_calls host l
  refine ⟨map_request_callsFrom host {} l, hrecords.outcome, ?_, ?_⟩
  · intro call hcall other hother place c otherPlace d
    exact hrecords.place_eq_iff hcall hother
  · intro before call rest h
    refine ⟨?_, answers_without_failure h⟩
    obtain ⟨hbefore, hanswer, hcache, -⟩ := calls_split h
    have hpast := (records_calls host (before.map Call.request)).request call.request
    rw [hbefore, ← hanswer, ← hcache] at hpast
    rw [hpast.made, ← hpast.keys, List.length_map]

/-- A host that rejects one cipher string. -/
def fussyHost : Host where
  rejection := fun cipherString => if cipherString = "NOPE" then some "no cipher match" else none

/-- A failure between requests that succeed, of which two are written in the same way. -/
theorem calls_transparent_of_fussyHost :
    ∃ before call rest, calls fussyHost [none, some "NOPE", some Host.everything, none] =
        before ++ call :: rest ∧
      call.answer.outcome.map Prod.snd = .error (.hostRejected "NOPE" "no cipher match") ∧
      call.cache.made = 2 ∧
      (calls fussyHost [none, some Host.everything, none]).map Call.answer =
        (before ++ rest).map Call.answer ∧
      ∃ first last place otherPlace c d, before.head? = some first ∧ rest.getLast? = some last ∧
        first.answer.outcome = .ok (place, c) ∧ last.answer.outcome = .ok (otherPlace, d) ∧
        place = otherPlace := by
  obtain ⟨-, houtcome, hplace, hsplit⟩ := calls_transparent fussyHost
    [none, some "NOPE", some Host.everything, none]
  have hcalls : calls fussyHost [none, some "NOPE", some Host.everything, none] =
      calls fussyHost [none] ++
        ⟨some "NOPE", ⟨[], .error (.hostRejected "NOPE" "no cipher match")⟩,
          after fussyHost {} [none, some "NOPE"]⟩ ::
        callsFrom fussyHost (after fussyHost {} [none, some "NOPE"])
          [some Host.everything, none] := rfl
  obtain ⟨hmade, hfail⟩ := hsplit _ _ _ hcalls
  refine ⟨_, _, _, hcalls, ?_, hmade.trans rfl, (hfail rfl).2, _, _, _, _, _, _, rfl, rfl, rfl,
    rfl, ?_⟩
  · exact houtcome _ (hcalls ▸ List.mem_append_right _ List.mem_cons_self)
  · exact (hplace _ (List.mem_of_mem_head? rfl) _ (List.mem_of_getLast? rfl) _ _ _ _ rfl rfl).mpr
      rfl

end HostCache

end CipherString
