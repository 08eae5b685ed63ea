import Understudy.Proofs.Url.Origin
import Understudy.Proofs.Url.Tail

/-!
# Paths, queries and fragments are read back

What is read as the path, query and fragment of a URL is encoded, and no dots are left in the path. So nothing of it is
changed when it is read again behind the text of an origin: it is the path, query and fragment of the URL that is read
there (`parse_target`).
-/

namespace Understudy

open Traversal

namespace Url

variable {cs : List Char} {c : Char} {path : String} {query fragment : Option String} {o : Origin}

/-! ### Paths -/

/-- A segment of a path that is read: none of its characters is encoded again, ends it or has a meaning in it. -/
structure IsSegment (segment : List Char) : Prop where
  kept : ∀ c ∈ segment, keepsPath c = true
  slash : ∀ c ∈ segment, isSlash c = false
  doubleDot : isDoubleDot segment = false
  dot : isDot segment = false

theorem isSegment_nil : IsSegment [] :=
  ⟨List.forall_mem_nil _, List.forall_mem_nil _, by decide, by decide⟩

theorem lt_of_keepsFragment (h : keepsFragment c = true) : 0x20 < c.toNat ∧ c.toNat < 128 := by
  simp only [keepsFragment, Bool.and_eq_true, decide_eq_true_eq] at h
  omega

theorem keepsFragment_of_keepsPath (h : keepsPath c = true) :
    keepsFragment c = true ∧ c ≠ '?' ∧ c ≠ '#' := by
  rw [keepsPath, Bool.and_eq_true] at h
  refine ⟨h.1, ?_, ?_⟩
  · rintro rfl
    exact absurd h.2 (by decide)
  · rintro rfl
    exact absurd h.2 (by decide)

/-- A segment without slashes is encoded as one that stays as it is, unless it is made of dots. -/
theorem isSegment_encode (hcs : ∀ c ∈ cs, isSlash c = false)
    (hdouble : isDoubleDot (Percent.encode keepsPath cs) = false)
    (hdot : isDot (Percent.encode keepsPath cs) = false) : IsSegment (Percent.encode keepsPath cs) where
  kept := Percent.forall_mem_encode (fun _ _ _ h => h) (by decide) (by decide)
  slash := Percent.forall_mem_encode (fun c hc _ _ => hcs c hc) (by decide) (by decide)
  doubleDot := hdouble
  dot := hdot

theorem IsSegment.encode_eq {segment : List Char} (h : IsSegment segment) :
    Percent.encode keepsPath segment = segment :=
  Percent.encode_eq_self fun c hc =>
    ⟨(lt_of_keepsFragment (keepsFragment_of_keepsPath (h.kept c hc)).1).2, h.kept c hc⟩

theorem resolveDots_ne_nil {segments : List (List Char)} (hne : segments ≠ []) (done : List (List Char)) :
    resolveDots done segments ≠ [] := by
  induction segments generalizing done with
  | nil => exact absurd rfl hne
  | cons s ss ih =>
      cases ss with
      | nil =>
          rw [resolveDots]
          split
          · simp
          · split
            · simp
            · simp
      | cons next ss =>
          have hss : next :: ss ≠ [] := List.cons_ne_nil next ss
          rw [resolveDots]
          split
          · exact ih hss _
          · split
            · exact ih hss _
            · exact ih hss _
          · exact hss

/-- Without dots nothing is resolved. -/
theorem resolveDots_of_forall {segments : List (List Char)} (h : ∀ s ∈ segments, IsSegment s)
    (done : List (List Char)) : resolveDots done segments = done.reverse ++ segments := by
  induction segments generalizing done with
  | nil => rw [resolveDots, List.append_nil]
  | cons s ss ih =>
      rw [List.forall_mem_cons] at h
      have hdouble : ¬ isDoubleDot s = true := Bool.eq_false_iff.1 h.1.doubleDot
      have hdot : ¬ isDot s = true := Bool.eq_false_iff.1 h.1.dot
      cases ss with
      | nil => rw [resolveDots, if_neg hdouble, if_neg hdot, List.reverse_cons]
      | cons next ss =>
          rw [resolveDots, if_neg hdouble, if_neg hdot, ih h.2, List.reverse_cons, List.append_assoc]
          · rfl
          · exact List.cons_ne_nil next ss

/-- A path that is read: segments with a slash in front of each. -/
structure IsPath (path : String) (segments : List (List Char)) : Prop where
  ne_nil : segments ≠ []
  segment : ∀ s ∈ segments, IsSegment s
  toList_eq : path.toList = '/' :: ['/'].intercalate segments

theorem exists_isPath_pathOfSegments (cs : List Char) :
    ∃ segments, IsPath (pathOfSegments true cs) segments := by
  have hne : (Text.cutAtChar '/' (cs.map fun c => if c = '\\' then '/' else c)).map
      (Percent.encode keepsPath) ≠ [] := by
    simpa using Text.cutAtChar_ne_nil '/' _
  refine ⟨_, resolveDots_ne_nil hne [],
    forall_resolveDots isSegment_nil (List.forall_mem_nil _) fun s hs hdouble hdot => ?_, ?_⟩
  · obtain ⟨part, hpart, rfl⟩ := List.mem_map.1 hs
    refine isSegment_encode (fun c hc => ?_) hdouble hdot
    obtain ⟨hmem, hslash⟩ := Text.mem_of_mem_cutAtChar hpart hc
    obtain ⟨d, -, rfl⟩ := List.mem_map.1 hmem
    split at hslash
    · exact absurd rfl hslash
    · rename_i hback
      rw [if_neg hback]
      simp [isSlash, hslash, hback]
  · simp only [pathOfSegments, if_true, String.toList_append, String.toList_ofList]
    rfl

theorem exists_isPath_readPath (cs : List Char) : ∃ segments, IsPath (readPath true cs) segments := by
  unfold readPath
  split
  · exact ⟨[[]], by simp, by simpa using isSegment_nil, rfl⟩
  · split
    · exact exists_isPath_pathOfSegments _
    · exact exists_isPath_pathOfSegments _

/-- A path that is read is read again as itself. -/
theorem IsPath.readPath_eq {segments : List (List Char)} (h : IsPath path segments) :
    readPath true path.toList = path := by
  -- each step of the reader leaves the segments alone: slashes are turned, the path is cut, encoded and resolved
  have hslash : ∀ c ∈ ['/'].intercalate segments, c ≠ '\\' :=
    Text.forall_mem_intercalate (fun s hs c hc hback => by
      have := (h.segment s hs).slash c hc
      rw [hback] at this
      exact absurd this (by decide)) (List.forall_mem_singleton.2 (by decide))
  have hsame : (['/'].intercalate segments).map (fun c => if c = '\\' then '/' else c) =
      ['/'].intercalate segments :=
    (List.map_congr_left fun c hc => if_neg (hslash c hc)).trans (List.map_id _)
  have hcut : Text.cutAtChar '/' (['/'].intercalate segments) = segments :=
    Text.cutAtChar_intercalate h.ne_nil fun s hs hmem => by
      have := (h.segment s hs).slash '/' hmem
      exact absurd this (by decide)
  have hencode : segments.map (Percent.encode keepsPath) = segments :=
    (List.map_congr_left fun s hs => (h.segment s hs).encode_eq).trans (List.map_id _)
  rw [h.toList_eq, readPath, if_pos (Or.inl rfl), pathOfSegments]
  simp only [if_true, hsame, hcut, hencode, resolveDots_of_forall h.segment, List.reverse_nil,
    List.nil_append]
  rw [← String.toList_inj, h.toList_eq]
  simp

theorem IsPath.keepsPath_of_mem {segments : List (List Char)} (h : IsPath path segments) :
    ∀ c ∈ path.toList, keepsPath c = true := by
  rw [h.toList_eq, List.forall_mem_cons]
  exact ⟨by decide, Text.forall_mem_intercalate (fun s hs => (h.segment s hs).kept)
    (List.forall_mem_singleton.2 (by decide))⟩

/-! ### Queries and fragments -/

/-- A query and a fragment that are read: none of their characters is encoded again. -/
structure IsTail (query fragment : Option String) : Prop where
  query : ∀ q ∈ query, ∀ c ∈ q.toList, keepsQuery true c = true
  fragment : ∀ f ∈ fragment, ∀ c ∈ f.toList, keepsFragment c = true

theorem isTail_readRest (cs : List Char) : IsTail (readRest true cs).1 (readRest true cs).2 := by
  obtain ⟨hquery, hfragment⟩ := exists_readRest true cs
  constructor
  · intro q hq
    obtain ⟨raw, rfl⟩ := hquery q hq
    rw [String.toList_ofList]
    exact Percent.forall_mem_encode (fun _ _ _ h => h) (by decide) (by decide)
  · intro f hf
    obtain ⟨raw, rfl⟩ := hfragment f hf
    rw [String.toList_ofList]
    exact Percent.forall_mem_encode (fun _ _ _ h => h) (by decide) (by decide)

theorem lt_of_keepsQuery (h : keepsQuery true c = true) : 0x20 < c.toNat ∧ c.toNat < 128 ∧ c ≠ '#' := by
  refine ⟨?_, ?_, ?_⟩
  · simp only [keepsQuery, Bool.and_eq_true, decide_eq_true_eq] at h
    omega
  · simp only [keepsQuery, Bool.and_eq_true, decide_eq_true_eq] at h
    omega
  · rintro rfl
    exact absurd h (by decide)

theorem IsTail.readRest_eq (h : IsTail query fragment) :
    readRest true (tail query fragment) = (query, fragment) := by
  have hfragment {f : String} (hf : f ∈ fragment) :
      String.ofList (Percent.encode keepsFragment f.toList) = f := by
    rw [Percent.encode_eq_self fun c hc =>
      ⟨(lt_of_keepsFragment (h.fragment f hf c hc)).2, h.fragment f hf c hc⟩, String.ofList_toList]
  cases query with
  | none =>
      cases fragment with
      | none => rfl
      | some f => exact congrArg (fun f => (none, some f)) (hfragment rfl)
  | some q =>
      have hkept := h.query q rfl
      have hquery : String.ofList (Percent.encode (keepsQuery true) q.toList) = q := by
        rw [Percent.encode_eq_self fun c hc => ⟨(lt_of_keepsQuery (hkept c hc)).2.1, hkept c hc⟩,
          String.ofList_toList]
      have hopen : ∀ c ∈ q.toList, (c != '#') = true := fun c hc => by
        simpa using (lt_of_keepsQuery (hkept c hc)).2.2
      cases fragment with
      | none =>
          have htake : q.toList.takeWhile (· != '#') = q.toList := List.takeWhile_eq_self_iff.2 hopen
          simp [tail, readRest, htake, hquery]
      | some f =>
          have htake : (q.toList ++ '#' :: f.toList).takeWhile (· != '#') = q.toList := by
            rw [List.takeWhile_append_of_pos hopen, List.takeWhile_cons_of_neg (by decide),
              List.append_nil]
          simp [tail, readRest, htake, hquery, hfragment]

theorem cutPath_tail (query fragment : Option String) :
    cutPath (tail query fragment) = ([], tail query fragment) := by
  cases query with
  | none =>
      cases fragment with
      | none => rfl
      | some f => rfl
  | some q => rfl

theorem IsTail.isEdge_of_mem (h : IsTail query fragment) :
    ∀ c ∈ tail query fragment, isEdge c = false := by
  refine List.forall_mem_append.2 ⟨?_, ?_⟩
  · cases query with
    | none => exact List.forall_mem_nil _
    | some q =>
        refine List.forall_mem_cons.2 ⟨by decide, fun c hc => ?_⟩
        simpa [isEdge] using (lt_of_keepsQuery (h.query q rfl c hc)).1
  · cases fragment with
    | none => exact List.forall_mem_nil _
    | some f =>
        refine List.forall_mem_cons.2 ⟨by decide, fun c hc => ?_⟩
        simpa [isEdge] using (lt_of_keepsFragment (h.fragment f rfl c hc)).1

/-! ### Behind an origin -/

def Origin.target (o : Origin) (path : String) (query fragment : Option String) : Url where
  scheme := o.scheme
  user := ""
  password := none
  host := some o.host
  port := if defaultPort? o.scheme = some o.port then none else some o.port
  path := path
  query := query
  fragment := fragment

theorem Origin.origin?_target (h : (defaultPort? o.scheme).isSome = true) :
    (o.target path query fragment).origin? = some o := by
  rw [origin?_of_ne_blob (scheme_ne_blob h)]
  exact ownOrigin?_of_site h rfl rfl rfl

theorem Origin.parse_host {own : Url} (hown : parse o.text = .ok own) (ho : own.origin? = some o) :
    o.IsRead ∧ Host.parse o.host.text.toList = .ok o.host := by
  have hread := isRead_of_origin? hown ho
  have hscheme := Origin.schemeOf?_relevant hread
  rw [String.ofList_toList] at hscheme
  rw [parse_of_defaultPort? hscheme hread.scheme] at hown
  have hsite := isSite_of_readAuthority (isSpecial_of_defaultPort? hread.scheme).1 hown
  have hdrop := Origin.dropWhile_isSlash hread []
  rw [List.append_nil] at hdrop
  rw [hdrop, Origin.authorityOf_siteChars hread] at hsite
  exact ⟨hread, (Origin.eq_of_isSite hread hsite).1⟩

/-- What stands behind the host and port of an origin is read as its target. -/
theorem readAuthority_siteChars (ho : o.IsRead) (hhost : Host.parse o.host.text.toList = .ok o.host)
    (hcs : cs.head? = some '/') :
    readAuthority o.scheme (o.siteChars ++ cs) = .ok (o.target (readPath true (cutPath cs).1)
      (readRest true (cutPath cs).2).1 (readRest true (cutPath cs).2).2) := by
  obtain ⟨hat, huser⟩ := Origin.cutUser?_siteChars ho
  have htake : (o.siteChars ++ cs).takeWhile (!endsAuthority true ·) = o.siteChars := by
    obtain ⟨rest, rfl⟩ := List.head?_eq_some_iff.1 hcs
    rw [List.takeWhile_append_of_pos fun c hc => by rw [(Origin.isHostChar_of_mem ho c hc).ends]; rfl,
      List.takeWhile_cons_of_neg (by decide), List.append_nil]
  have hne : o.host.text.toList.isEmpty = false := by
    obtain ⟨read, hread⟩ := ho.host
    simpa using (Host.isReadable_of_parse hread).ne_nil
  unfold readAuthority
  simp only [(isSpecial_of_defaultPort? ho.scheme).1, htake, List.drop_left, hat, huser, Option.getD_none,
    Origin.cutHost_siteChars ho, hne, hhost, Origin.readPort_portChars ho]
  rfl

/-- A path, a query and a fragment that were read are read as themselves behind the text of an origin. -/
theorem parse_target {own : Url} (hown : parse o.text = .ok own) (ho : own.origin? = some o)
    {segments : List (List Char)} (hpath : IsPath path segments) (htail : IsTail query fragment) :
    parse (String.ofList (o.text.toList ++ (path.toList ++ tail query fragment))) =
      .ok (o.target path query fragment) := by
  obtain ⟨hread, hhost⟩ := Origin.parse_host hown ho
  have hkept {c : Char} (hc : c ∈ path.toList) := keepsFragment_of_keepsPath (hpath.keepsPath_of_mem c hc)
  have hedge : ∀ c ∈ o.text.toList ++ (path.toList ++ tail query fragment), isEdge c = false := by
    rw [List.forall_mem_append, List.forall_mem_append]
    refine ⟨Origin.isEdge_of_mem_text hread, fun c hc => ?_, htail.isEdge_of_mem⟩
    simpa [isEdge] using (lt_of_keepsFragment (hkept hc).1).1
  have hscheme := schemeOf?_append (Origin.schemeOf?_text hread) (path.toList ++ tail query fragment)
  rw [← relevant_of_forall hedge] at hscheme
  have hcut : cutPath (path.toList ++ tail query fragment) = (path.toList, tail query fragment) := by
    rw [cutPath_append (fun c hc => (hkept hc).2), cutPath_tail, List.append_nil]
  rw [parse_of_defaultPort? hscheme hread.scheme, List.cons_append, List.cons_append,
    Origin.dropWhile_isSlash hread, readAuthority_siteChars hread hhost (by rw [hpath.toList_eq]; rfl),
    hcut, hpath.readPath_eq, htail.readRest_eq]

/-- A URL of a scheme with ports has a path, a query and a fragment that are read again as themselves. -/
theorem exists_isPath_of_parse {s : String} {u : Url} (h : parse s = .ok u)
    (hport : (defaultPort? u.scheme).isSome = true) :
    (∃ segments, IsPath u.path segments) ∧ IsTail u.query u.fragment := by
  obtain ⟨whole, hwhole⟩ := schemeOf?_of_parse h
  rw [parse_of_defaultPort? hwhole hport] at h
  obtain ⟨-, hpath, htail⟩ := of_readAuthority h
  rw [(isSpecial_of_defaultPort? hport).1] at hpath htail
  obtain ⟨hquery, hfragment⟩ := Prod.mk.inj htail
  rw [hpath, hquery, hfragment]
  exact ⟨exists_isPath_readPath _, isTail_readRest _⟩

theorem parse_slash_ne_ok {u : Url} (cs : List Char) : parse (String.ofList ('/' :: cs)) ≠ .ok u := by
  intro h
  obtain ⟨rest, hrest⟩ := schemeOf?_of_parse h
  have hfront : relevant (String.ofList ['/']) = ['/'] :=
    relevant_of_forall (List.forall_mem_singleton.2 (by decide))
  obtain ⟨more, hmore, -⟩ := relevant_append (a := ['/']) ⟨'/', by simp, by decide⟩ cs
  rw [List.singleton_append, hfront] at hmore
  rw [hmore] at hrest
  exact nomatch hrest

end Url

end Understudy
