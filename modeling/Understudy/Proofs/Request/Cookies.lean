import Understudy.Proofs.Bytes.Texts
import Understudy.Proofs.Request.Assembled
import Understudy.Proofs.Response.Wire
import Understudy.Proofs.Text.Blank
import Understudy.Proofs.Text.Cut

/-!
# Cookies are read back

The cookies of a request are cut out of its headers at semicolons and at the first equals sign, without the blanks
around. Written one behind another into one header they are read as the same cookies, and the header is legal when those
of the request are.
-/

namespace Understudy

namespace Request

/-- A name and a value that stand in a cookie header as they are. -/
structure IsCookie (c : String × String) : Prop where
  named : c.1 ≠ ""
  name_trimmed : Text.Trimmed c.1.toList
  value_trimmed : Text.Trimmed c.2.toList
  name_equals : '=' ∉ c.1.toList
  name_semicolon : ';' ∉ c.1.toList
  value_semicolon : ';' ∉ c.2.toList

def cookieText (c : String × String) : String := c.1 ++ "=" ++ c.2

variable {c : String × String} {part : String}

theorem cookieOf?_eq_some : cookieOf? part = some c ↔
    ∃ a b, Text.cutOnce ['='] part.toList = some (a, b) ∧
      (Text.trim (String.ofList a), Text.trim (String.ofList b)) = c ∧ c.1 ≠ "" := by
  unfold cookieOf? Text.splitOnce
  have hsign : "=".toList = ['='] := rfl
  rw [hsign]
  cases hcut : Text.cutOnce ['='] part.toList with
  | none => simp
  | some parts =>
      obtain ⟨a, b⟩ := parts
      simp only [Option.map_some, Option.ite_none_left_eq_some, Option.some.injEq,
        String.isEmpty_iff, Prod.mk.injEq]
      constructor
      · rintro ⟨hname, rfl⟩
        exact ⟨a, b, ⟨rfl, rfl⟩, rfl, hname⟩
      · rintro ⟨a', b', ⟨rfl, rfl⟩, rfl, hname⟩
        exact ⟨hname, rfl⟩

/-- What is cut out of a part between semicolons is a cookie. -/
theorem isCookie_of_cookieOf? (h : cookieOf? part = some c) (hpart : ';' ∉ part.toList) :
    IsCookie c := by
  obtain ⟨a, b, hcut, rfl, hname⟩ := cookieOf?_eq_some.1 h
  have hparts : part.toList = a ++ ['='] ++ b := Text.cutOnce_eq_some hcut
  rw [hparts] at hpart
  simp only [List.mem_append, not_or] at hpart
  have htrim {cs : List Char} {d : Char} (hd : d ∉ cs) :
      d ∉ (Text.trim (String.ofList cs)).toList := by
    intro hmem
    have hin := Text.mem_of_mem_trim hmem
    rw [String.toList_ofList] at hin
    exact hd hin
  exact ⟨hname, Text.trimmed_trim _, Text.trimmed_trim _, htrim (Text.notMem_of_cutOnce hcut),
    htrim hpart.1.1, htrim hpart.2⟩

namespace IsCookie

theorem cutOnce (h : IsCookie c) (blanks : List Char) (hblanks : '=' ∉ blanks) :
    Text.cutOnce ['='] (blanks ++ (cookieText c).toList) =
      some (blanks ++ c.1.toList, c.2.toList) := by
  have hnot : '=' ∉ blanks ++ c.1.toList := by
    rw [List.mem_append, not_or]
    exact ⟨hblanks, h.name_equals⟩
  have htext : blanks ++ (cookieText c).toList = (blanks ++ c.1.toList) ++ '=' :: c.2.toList := by
    simp [cookieText]
  rw [htext, Text.cutOnce_append hnot]

theorem cookieOf?_cookieText (h : IsCookie c) : cookieOf? (cookieText c) = some c := by
  refine cookieOf?_eq_some.2 ⟨_, _, h.cutOnce [] List.not_mem_nil, ?_, h.named⟩
  rw [List.nil_append, String.ofList_toList, String.ofList_toList,
    Text.trim_of_trimmed h.name_trimmed, Text.trim_of_trimmed h.value_trimmed]

theorem cookieOf?_blank (h : IsCookie c) :
    cookieOf? (String.ofList (' ' :: (cookieText c).toList)) = some c := by
  have hcut := h.cutOnce [' '] (by decide)
  refine cookieOf?_eq_some.2 ⟨_, _, by rwa [String.toList_ofList], ?_, h.named⟩
  rw [List.singleton_append, Text.trim_cons (by decide), String.ofList_toList, String.ofList_toList,
    Text.trim_of_trimmed h.name_trimmed, Text.trim_of_trimmed h.value_trimmed]

theorem semicolon_cookieText (h : IsCookie c) : ';' ∉ (cookieText c).toList := by
  simp [cookieText, h.name_semicolon, h.value_semicolon]

end IsCookie

variable {cs : List (String × String)}

/-- Cookies that are written into one header are cut out again. -/
theorem split_join (h : ∀ d ∈ c :: cs, IsCookie d) :
    Text.split ';' (Text.join "; " ((c :: cs).map cookieText)) =
      cookieText c :: cs.map fun d => String.ofList (' ' :: (cookieText d).toList) := by
  have hjoin : (Text.join "; " ((c :: cs).map cookieText)).toList =
      [';'].intercalate ((cookieText c).toList :: cs.map fun d => ' ' :: (cookieText d).toList) := by
    have hpair : "; ".toList = [';', ' '] := rfl
    rw [Text.join, String.toList_intercalate, hpair, List.map_cons, List.map_cons,
      Text.intercalate_pair, List.map_map, List.map_map]
    rfl
  have hparts : ∀ part ∈ (cookieText c).toList :: cs.map fun d => ' ' :: (cookieText d).toList,
      ';' ∉ part := by
    rw [List.forall_mem_cons] at h ⊢
    refine ⟨h.1.semicolon_cookieText, fun part hpart => ?_⟩
    obtain ⟨d, hd, rfl⟩ := List.mem_map.1 hpart
    exact fun hmem => (List.mem_cons.1 hmem).elim (by decide) (h.2 d hd).semicolon_cookieText
  rw [Text.split, hjoin, Text.cutAtChar_intercalate (List.cons_ne_nil _ _) hparts, List.map_cons,
    List.map_map, String.ofList_toList]
  rfl

theorem map_cookieOf?_split (h : ∀ d ∈ cs, IsCookie d) (hne : cs ≠ []) :
    (Text.split ';' (Text.join "; " (cs.map cookieText))).map cookieOf? = cs.map some := by
  obtain ⟨c, cs, rfl⟩ := List.exists_cons_of_ne_nil hne
  rw [split_join h, List.map_cons, List.map_map, (h c List.mem_cons_self).cookieOf?_cookieText,
    List.map_cons]
  refine congrArg _ (List.map_congr_left fun d hd => ?_)
  exact (h d (List.mem_cons_of_mem c hd)).cookieOf?_blank

/-- A header of cookies is read as these cookies. -/
theorem cookiesOf_join (h : ∀ d ∈ cs, IsCookie d) (hascending : Ascending cs) (hne : cs ≠ []) :
    cookiesOf [Text.join "; " (cs.map cookieText)] = cs := by
  have hread : (Text.split ';' (Text.join "; " (cs.map cookieText))).filterMap cookieOf? = cs := by
    have hid : (Text.split ';' (Text.join "; " (cs.map cookieText))).filterMap cookieOf? =
        ((Text.split ';' (Text.join "; " (cs.map cookieText))).map cookieOf?).filterMap id := by
      rw [List.filterMap_map, Function.id_comp]
    rw [hid, map_cookieOf?_split h hne, List.filterMap_map, Function.id_comp, List.filterMap_some]
  rw [cookiesOf, List.flatMap_singleton, hread, Ascending.sort_of_ascending hascending]

theorem Assembled.cookies_eq {r : Request} (h : r.Assembled) :
    r.cookies = cookiesOf (MultiMap.valuesFor true r.headerPairs "cookie") := by
  have hvalues : (r.headers.getAll? "cookie").getD [] =
      MultiMap.valuesFor true r.headerPairs "cookie" := by
    rw [h.headers_eq, MultiMap.getAll?_ofPairs]
    split
    · rfl
    · rename_i hnone
      exact (MultiMap.valuesFor_eq_nil.2 (Bool.not_eq_true _ ▸ hnone)).symm
  rw [← hvalues]
  obtain ⟨method, url, headers, body, clientIp, at_, rfl⟩ := h.exists_ofUrl
  rfl

theorem Assembled.exists_part {r : Request} (h : r.Assembled) (hc : c ∈ r.cookies) :
    ∃ d ∈ r.rawHeaders, ∃ part, cookieOf? (String.ofList part) = some c ∧
      part ∈ Text.cutAtChar ';' (Bytes.latinText d.2).toList := by
  rw [h.cookies_eq, cookiesOf] at hc
  obtain ⟨part, hpart, hread⟩ := List.mem_filterMap.1 (Ascending.mem_of_mem_sort hc)
  obtain ⟨value, hvalue, hpart⟩ := List.mem_flatMap.1 hpart
  obtain ⟨chars, hchars, rfl⟩ := List.mem_map.1 hpart
  obtain ⟨pair, hpair, rfl⟩ := List.mem_map.1 hvalue
  obtain ⟨d, hd, rfl⟩ := List.mem_map.1 (List.mem_of_mem_filter hpair)
  exact ⟨d, hd, chars, hread, hchars⟩

theorem Assembled.isCookie {r : Request} (h : r.Assembled) : ∀ d ∈ r.cookies, IsCookie d := by
  intro d hd
  obtain ⟨header, _, part, hread, hpart⟩ := h.exists_part hd
  refine isCookie_of_cookieOf? hread fun hsemicolon => ?_
  rw [String.toList_ofList] at hsemicolon
  exact (Text.mem_of_mem_cutAtChar hpart hsemicolon).2 rfl

theorem isLegalChar_latinText {value : Bytes} (h : Response.isLegalValue value = true) :
    ∀ ch ∈ (Bytes.latinText value).toList, Response.IsLegalChar ch := by
  unfold Bytes.latinText
  cases htext : Bytes.text? value with
  | some s =>
      rw [Bytes.text?_eq_some.1 htext] at h
      exact Response.isLegalValue_ofText_iff.1 h
  | none =>
      intro ch hch
      rw [Option.getD_none, Bytes.byteText, String.toList_ofList] at hch
      obtain ⟨b, hb, rfl⟩ := List.mem_map.1 hch
      rw [Response.IsLegalChar, Bytes.toNat_charOfByte]
      exact Response.isLegalValue_iff.1 h b hb

/-- The cookies of legal headers can be written into a legal header. -/
theorem Assembled.isLegalChar_cookieText {r : Request} (h : r.Assembled)
    (hlegal : ∀ d ∈ r.rawHeaders, Response.isLegalValue d.2 = true) (hc : c ∈ r.cookies) :
    ∀ ch ∈ (cookieText c).toList, Response.IsLegalChar ch := by
  obtain ⟨d, hd, part, hread, hpart⟩ := h.exists_part hc
  obtain ⟨a, b, hcut, rfl, -⟩ := cookieOf?_eq_some.1 hread
  rw [String.toList_ofList] at hcut
  have hwhole : ∀ ch ∈ part, Response.IsLegalChar ch := fun ch hch =>
    isLegalChar_latinText (hlegal d hd) ch (Text.mem_of_mem_cutAtChar hpart hch).1
  rw [Text.cutOnce_eq_some hcut] at hwhole
  have htrim {cs : List Char} (hcs : ∀ ch ∈ cs, Response.IsLegalChar ch) :
      ∀ ch ∈ (Text.trim (String.ofList cs)).toList, Response.IsLegalChar ch := by
    intro ch hch
    have hin := Text.mem_of_mem_trim hch
    rw [String.toList_ofList] at hin
    exact hcs ch hin
  simp only [List.forall_mem_append] at hwhole
  simp only [cookieText, String.toList_append, List.forall_mem_append]
  exact ⟨⟨htrim hwhole.1.1, hwhole.1.2⟩, htrim hwhole.2⟩

theorem isLegalValue_join
    (h : ∀ d ∈ cs, ∀ ch ∈ (cookieText d).toList, Response.IsLegalChar ch) :
    Response.isLegalValue (Bytes.ofText (Text.join "; " (cs.map cookieText))) = true := by
  rw [Response.isLegalValue_ofText_iff, Text.join, String.toList_intercalate, List.map_map]
  refine Text.forall_mem_intercalate (fun part hpart => ?_) ?_
  · obtain ⟨d, hd, rfl⟩ := List.mem_map.1 hpart
    exact h d hd
  · have hpair : "; ".toList = [';', ' '] := rfl
    rw [hpair, List.forall_mem_cons, List.forall_mem_singleton]
    exact ⟨Or.inr (by decide), Or.inr (by decide)⟩

end Request

end Understudy
