import ExecutorRegistration.Url.Basic
import Mathlib.Data.List.DropRight
import Mathlib.Tactic.SplitIfs

/-!
# What a query and a fragment do not change

A question mark or number sign ends the path of a URL, the host or the port if there is no path, and
the credentials. No part of the reader inspects what stands behind the first of these marks before
it has read the path, so that texts which differ behind a mark are both refused for the same fault,
or are URLs with the same scheme, authority and path.
-/

namespace ExecutorRegistration.Url

/-- A URL without its query and its fragment. -/
def location (url : Url) : Url := { url with query := none, fragment := none }

/-! ## Characters before a mark -/

section Texts

variable {mark : Char}

theorem takeWhile_append_cons {test : Char → Bool} (stops : test mark = false)
    (front behind : List Char) :
    (front ++ mark :: behind).takeWhile test = front.takeWhile test := by
  induction front with
  | nil => simp [stops]
  | cons c front ih =>
      rw [List.cons_append]
      by_cases holds : test c = true
      · rw [List.takeWhile_cons_of_pos holds, List.takeWhile_cons_of_pos holds, ih]
      · rw [List.takeWhile_cons_of_neg holds, List.takeWhile_cons_of_neg holds]

theorem dropWhile_append_cons {test : Char → Bool} (stops : test mark = false)
    (front behind : List Char) :
    (front ++ mark :: behind).dropWhile test = front.dropWhile test ++ mark :: behind := by
  induction front with
  | nil => simp [stops]
  | cons c front ih =>
      rw [List.cons_append]
      by_cases holds : test c = true
      · rw [List.dropWhile_cons_of_pos holds, List.dropWhile_cons_of_pos holds, ih]
      · rw [List.dropWhile_cons_of_neg holds, List.dropWhile_cons_of_neg holds, List.cons_append]

theorem rdropWhile_append_cons {test : Char → Bool} (stops : test mark = false)
    (front behind : List Char) :
    (front ++ mark :: behind).rdropWhile test = front ++ mark :: behind.rdropWhile test := by
  rw [List.rdropWhile, List.rdropWhile, List.reverse_append, List.reverse_cons, List.append_assoc,
    List.singleton_append, dropWhile_append_cons stops, List.reverse_append, List.reverse_cons,
    List.reverse_reverse, List.append_assoc, List.singleton_append]

theorem splitBefore_append {test : Char → Bool} (stops : test mark = true)
    (front behind : List Char) :
    splitBefore test (front ++ mark :: behind) =
      ((splitBefore test front).1, (splitBefore test front).2 ++ mark :: behind) := by
  have notTest : (!test mark) = false := by rw [stops]; rfl
  rw [splitBefore, takeWhile_append_cons notTest, dropWhile_append_cons notTest]
  rfl

theorem head?_append_cons_eq_iff {c : Char} (ne : mark ≠ c) (front behind : List Char) :
    (front ++ mark :: behind).head? = some c ↔ front.head? = some c := by
  cases front <;> simp [ne]

end Texts

/-! ## Breaks before a mark -/

theorem foldr_breaks (text : List Char) :
    text.foldr (fun c (count, breaks) =>
      if isBreak c then (count, count :: breaks) else (count + 1, breaks))
      ((0, []) : Nat × List Nat) = ((significant text).length, breaksOf text) := by
  induction text with
  | nil => rfl
  | cons c text ih =>
      rw [breaksOf, List.foldr_cons, ih]
      by_cases isBreak : isBreak c = true <;> simp [significant, isBreak]

theorem breaksOf_cons (c : Char) (text : List Char) :
    breaksOf (c :: text) =
      if isBreak c then (significant text).length :: breaksOf text else breaksOf text := by
  rw [breaksOf, List.foldr_cons, foldr_breaks]
  split_ifs <;> rfl

theorem le_of_mem_breaksOf {text : List Char} {distance : Nat} (member : distance ∈ breaksOf text) :
    distance ≤ (significant text).length := by
  induction text with
  | nil => cases member
  | cons c text ih =>
      rw [breaksOf_cons] at member
      have shorter : (significant text).length ≤ (significant (c :: text)).length :=
        ((List.sublist_cons_self c text).filter _).length_le
      split_ifs at member
      · rcases List.mem_cons.mp member with rfl | later
        · exact shorter
        · exact (ih later).trans shorter
      · exact (ih member).trans shorter

theorem breaksOf_append (front behind : List Char) :
    breaksOf (front ++ behind) =
      (breaksOf front).map (· + (significant behind).length) ++ breaksOf behind := by
  induction front with
  | nil => rfl
  | cons c front ih =>
      rw [List.cons_append, breaksOf_cons, breaksOf_cons, ih]
      split_ifs
      · simp [significant]
      · rfl

/-- A text has the breaks of its front, further away from its end. -/
theorem add_mem_breaksOf_iff (front behind : List Char) {distance : Nat} (positive : 0 < distance) :
    (significant behind).length + distance ∈ breaksOf (front ++ behind) ↔
      distance ∈ breaksOf front := by
  rw [breaksOf_append, List.mem_append, List.mem_map]
  constructor
  · rintro (⟨other, member, same⟩ | later)
    · obtain rfl : other = distance := by omega
      exact member
    · have bounded := le_of_mem_breaksOf later
      omega
  · intro member
    exact .inl ⟨distance, member, Nat.add_comm _ _⟩

/-- Two texts have the same breaks before ends of the given lengths. -/
def AgreeBefore (length : Nat) (breaks : List Nat) (otherLength : Nat) (others : List Nat) : Prop :=
  ∀ distance, 0 < distance → (length + distance ∈ breaks ↔ otherLength + distance ∈ others)

theorem agreeBefore_nil (length otherLength : Nat) : AgreeBefore length [] otherLength [] :=
  fun _ _ => iff_of_false List.not_mem_nil List.not_mem_nil

theorem mem_map_sub_iff {breaks : List Nat} {length distance : Nat} (positive : 0 < distance) :
    distance ∈ breaks.map (· - length) ↔ length + distance ∈ breaks := by
  rw [List.mem_map]
  constructor
  · rintro ⟨whole, member, rfl⟩
    rwa [Nat.add_sub_cancel' (by omega)]
  · intro member
    exact ⟨_, member, Nat.add_sub_cancel_left _ _⟩

/-- No drive is broken at the end of a path. -/
theorem Segment.isBrokenDrive_congr {breaks others : List Nat}
    (agree : ∀ distance, 0 < distance → (distance ∈ breaks ↔ distance ∈ others))
    (segment : Segment) : segment.isBrokenDrive breaks = segment.isBrokenDrive others := by
  unfold isBrokenDrive
  split
  · rename_i c rest _
    congr 1
    rw [Bool.eq_iff_iff, List.contains_iff_mem, List.contains_iff_mem]
    exact agree _ (by rw [List.length_cons]; omega)
  · rfl

theorem PathDraft.of_congr {breaks others : List Nat}
    (agree : ∀ distance, 0 < distance → (distance ∈ breaks ↔ distance ∈ others))
    (kind : SchemeKind) (text : List Char) : of kind breaks text = of kind others text := by
  have same : append kind breaks = append kind others := by
    funext draft segment
    rw [append, append, segment.isBrokenDrive_congr agree]
  rw [of, of, same]

/-! ## Parts of the reader -/

section Parts

variable {mark : Char} (isMark : mark = '?' ∨ mark = '#')

include isMark

theorem splitBefore_tail (front behind : List Char) :
    splitBefore (fun c => c = '?' || c = '#') (front ++ mark :: behind) =
      ((splitBefore (fun c => c = '?' || c = '#') front).1,
        (splitBefore (fun c => c = '?' || c = '#') front).2 ++ mark :: behind) := by
  refine splitBefore_append ?_ front behind
  rcases isMark with rfl | rfl <;> rfl

theorem splitBefore_path (kind : SchemeKind) (front behind : List Char) :
    splitBefore (fun c => kind.isSlash c || c = '?' || c = '#') (front ++ mark :: behind) =
      ((splitBefore (fun c => kind.isSlash c || c = '?' || c = '#') front).1,
        (splitBefore (fun c => kind.isSlash c || c = '?' || c = '#') front).2 ++
          mark :: behind) := by
  refine splitBefore_append ?_ front behind
  rcases isMark with rfl | rfl <;> simp

theorem isSlash_mark (kind : SchemeKind) : kind.isSlash mark = false := by
  rcases isMark with rfl | rfl <;> simp [SchemeKind.isSlash]

theorem mark_ne_colon : mark ≠ ':' := by
  rcases isMark with rfl | rfl <;> decide

theorem exists_trim_append (front : List Char) :
    ∃ start, ∀ behind, ∃ tail, trim (front ++ mark :: behind) = start ++ mark :: tail := by
  have stops : decide (mark.toNat ≤ 32) = false := by rcases isMark with rfl | rfl <;> rfl
  refine ⟨front.dropWhile fun c => c.toNat ≤ 32, fun behind =>
    ⟨behind.rdropWhile fun c => c.toNat ≤ 32, ?_⟩⟩
  rw [trim, dropWhile_append_cons stops]
  exact rdropWhile_append_cons stops _ _

theorem significant_append (front behind : List Char) :
    significant (front ++ mark :: behind) = significant front ++ mark :: significant behind := by
  have notBreak : isBreak mark = false := by rcases isMark with rfl | rfl <;> rfl
  simp [significant, notBreak]

theorem splitScheme?_append (front behind : List Char) :
    splitScheme? (front ++ mark :: behind) =
      (splitScheme? front).map fun (scheme, rest) => (scheme, rest ++ mark :: behind) := by
  have stops : isSchemePart mark = false := by rcases isMark with rfl | rfl <;> rfl
  have notAlpha : mark.isAlpha = false := by rcases isMark with rfl | rfl <;> rfl
  cases front with
  | nil => simp [splitScheme?, notAlpha]
  | cons first front =>
      have head_eq : (first :: front ++ mark :: behind).head? = (first :: front).head? := rfl
      rw [splitScheme?, splitScheme?, head_eq, dropWhile_append_cons stops,
        takeWhile_append_cons stops]
      split_ifs
      · cases (first :: front).dropWhile isSchemePart with
        | nil => simp [mark_ne_colon isMark]
        | cons c rest =>
            by_cases colon : c = ':'
            · subst colon
              rfl
            · simp [colon]
      · rfl

/-- Credentials are looked for before the mark only. That a host has to follow where nothing stands
before their sign is not as in a text that ends here, since the mark follows in any case. -/
theorem exists_splitCredentials_append (kind : SchemeKind) (front : List Char) :
    ∃ split : Except UrlFault (List Char × List Char), ∀ behind,
      splitCredentials kind (front ++ mark :: behind) =
        split.map fun (credentials, rest) => (credentials, rest ++ mark :: behind) := by
  unfold splitCredentials
  simp only [splitBefore_path isMark]
  generalize splitBefore (fun c => kind.isSlash c || decide (c = '?') || decide (c = '#')) front =
    parts
  obtain ⟨authority, path⟩ := parts
  dsimp only
  generalize (authority.reverse.takeWhile (· ≠ '@')).reverse = host
  generalize authority.take (authority.length - host.length - 1) = credentials
  by_cases whole : host.length = authority.length
  · exact ⟨.ok ([], front), fun behind => if_pos whole⟩
  · by_cases empty : credentials = [] ∧ host = []
    · refine ⟨.error .emptyHost, fun behind => ?_⟩
      rw [if_neg whole, if_pos ⟨empty.1, empty.2, by simp⟩]
      rfl
    · refine ⟨.ok (credentials, host ++ path), fun behind => ?_⟩
      rw [if_neg whole, if_neg fun both => empty ⟨both.1, both.2.1⟩]
      simp [Except.map]

theorem splitHost_append (kind : SchemeKind) (bracketed : Bool) (front behind : List Char) :
    splitHost kind bracketed (front ++ mark :: behind) =
      ((splitHost kind bracketed front).1,
        (splitHost kind bracketed front).2 ++ mark :: behind) := by
  induction front generalizing bracketed with
  | nil =>
      rw [List.nil_append, splitHost, splitHost, if_pos (.inr (.inr isMark))]
      rfl
  | cons c front ih =>
      rw [List.cons_append, splitHost, splitHost]
      dsimp only
      rw [ih]
      split_ifs <;> rfl

theorem readPort_append (value : Option Nat) (front behind : List Char) :
    readPort value (front ++ mark :: behind) =
      (readPort value front).map fun (port, rest) => (port, rest ++ mark :: behind) := by
  induction front generalizing value with
  | nil =>
      have noDigit : Text.decimalDigit? mark = none := by rcases isMark with rfl | rfl <;> rfl
      rw [List.nil_append, readPort, readPort, noDigit]
      dsimp only
      rw [if_pos (.inr (.inr isMark))]
      rfl
  | cons c front ih =>
      rw [List.cons_append, readPort, readPort]
      cases Text.decimalDigit? c with
      | none =>
          dsimp only
          split_ifs <;> rfl
      | some digit =>
          dsimp only
          split_ifs
          · exact ih _
          · rfl

theorem splitPort_append (front behind : List Char) :
    splitPort (front ++ mark :: behind) =
      (splitPort front).map fun (port, rest) => (port, rest ++ mark :: behind) := by
  cases front with
  | nil => simp [splitPort, mark_ne_colon isMark, Except.map]
  | cons c front =>
      by_cases colon : c = ':'
      · subst colon
        exact readPort_append isMark none front behind
      · simp [splitPort, colon, Except.map]

end Parts

/-! ## URLs that are read -/

/-- One slash starts the path of a scheme that is not of the web. -/
theorem parseOther_slash (scheme : String) {text : List Char} (single : text.head? ≠ some '/') :
    parseOther scheme ('/' :: text) =
      .ok (withRootedPath .other [] { scheme, path := [] } text) := by
  unfold parseOther
  split
  · rename_i same
    rw [(List.cons.inj same).2] at single
    exact absurd rfl single
  · rename_i same
    rw [(List.cons.inj same).2]
  · rename_i notRooted
    exact absurd rfl (notRooted _)

theorem location_parseOther_of_head (scheme : String) {text : List Char}
    (noSlash : text.head? ≠ some '/') :
    (parseOther scheme text).map location =
      .ok
        { scheme
          path := percentEncode (fun c => c.toNat < 32)
            (splitBefore (fun c => c = '?' || c = '#') text).1 } := by
  unfold parseOther
  split
  · exact absurd rfl noSlash
  · exact absurd rfl noSlash
  · rfl

section Parse

variable {mark : Char} (isMark : mark = '?' ∨ mark = '#')

include isMark

theorem location_withRootedPath (kind : SchemeKind) {breaks others : List Nat} (url : Url)
    (front : List Char) {behind other : List Char}
    (agree : AgreeBefore (mark :: behind).length breaks (mark :: other).length others) :
    (withRootedPath kind breaks url (front ++ mark :: behind)).location =
      (withRootedPath kind others url (front ++ mark :: other)).location := by
  rw [withRootedPath, withRootedPath, splitBefore_tail isMark, splitBefore_tail isMark]
  generalize splitBefore (fun c => decide (c = '?') || decide (c = '#')) front = parts
  obtain ⟨path, tail⟩ := parts
  dsimp only [location]
  have sameDraft : PathDraft.of kind (breaks.map (· - (tail ++ mark :: behind).length)) path =
      PathDraft.of kind (others.map (· - (tail ++ mark :: other).length)) path := by
    refine PathDraft.of_congr (fun distance positive => ?_) kind path
    have shifted := agree (tail.length + distance) (by omega)
    rw [mem_map_sub_iff positive, mem_map_sub_iff positive, List.length_append, List.length_append,
      Nat.add_comm tail.length, Nat.add_comm tail.length, Nat.add_assoc, Nat.add_assoc]
    exact shifted
  rw [sameDraft]

theorem location_withPath (kind : SchemeKind) {breaks others : List Nat} (url : Url)
    (front : List Char) {behind other : List Char}
    (agree : AgreeBefore (mark :: behind).length breaks (mark :: other).length others) :
    (withPath kind breaks url (front ++ mark :: behind)).location =
      (withPath kind others url (front ++ mark :: other)).location := by
  have rooted (rest : List Char) := location_withRootedPath isMark kind url rest agree
  rw [withPath, withPath]
  cases front with
  | nil =>
      have ends : (decide (mark = '?') || decide (mark = '#')) = true := by
        rcases isMark with rfl | rfl <;> rfl
      by_cases bare : kind = .other
      · simp [bare, ends, location]
      · simpa [bare, isSlash_mark isMark] using rooted []
  | cons first front =>
      simp only [List.cons_append, List.head?_cons, Option.all_some, Option.any_some,
        List.drop_succ_cons, List.drop_zero]
      split_ifs
      · rfl
      · exact rooted front
      · exact rooted (first :: front)

theorem location_parseBehindHost (kind : SchemeKind) (scheme : String) (credentials : List Char)
    (host : Host) (front behind other : List Char) :
    (parseBehindHost kind scheme credentials host (front ++ mark :: behind)).map location =
      (parseBehindHost kind scheme credentials host (front ++ mark :: other)).map location := by
  rw [parseBehindHost, parseBehindHost, splitPort_append isMark, splitPort_append isMark]
  simp only [head?_append_cons_eq_iff (mark_ne_colon isMark)]
  by_cases noHost : host = .domain "" ∧ front.head? = some ':'
  · rw [if_pos noHost, if_pos noHost]
  · rw [if_neg noHost, if_neg noHost]
    cases splitPort front with
    | error fault => rfl
    | ok parts =>
        obtain ⟨port, rest⟩ := parts
        dsimp only [Except.map, bind, Except.bind]
        split_ifs
        · rfl
        · exact congrArg Except.ok (location_withPath isMark kind _ rest (agreeBefore_nil _ _))

theorem location_parseAuthority (kind : SchemeKind) (scheme : String)
    (front behind other : List Char) :
    (parseAuthority kind scheme (front ++ mark :: behind)).map location =
      (parseAuthority kind scheme (front ++ mark :: other)).map location := by
  obtain ⟨split, splits⟩ := exists_splitCredentials_append isMark kind front
  rw [parseAuthority, parseAuthority, splits, splits]
  cases split with
  | error fault => rfl
  | ok parts =>
      obtain ⟨credentials, rest⟩ := parts
      dsimp only [Except.map, bind, Except.bind]
      rw [splitHost_append isMark, splitHost_append isMark]
      dsimp only
      split_ifs
      · rfl
      · cases parseOpaqueHost (splitHost kind false rest).1 with
        | error fault => rfl
        | ok host => exact location_parseBehindHost isMark kind scheme credentials host _ _ _
      · cases parseDomainHost (splitHost kind false rest).1 with
        | error fault => rfl
        | ok host => exact location_parseBehindHost isMark kind scheme credentials host _ _ _

/-- There are not two slashes before a mark that is the first or second character. -/
theorem parseFile_of_short (breaks : List Nat) {front : List Char} (short : front.length < 2)
    (behind : List Char) :
    parseFile breaks (front ++ mark :: behind) =
      .ok (withPath .file breaks { scheme := "file", host := some (.domain ""), path := [] }
        (front ++ mark :: behind)) := by
  have notSlash := isSlash_mark isMark .file
  match front, behind with
  | [], [] => rfl
  | [], second :: behind => simp [parseFile, notSlash]
  | [first], behind => simp [parseFile, notSlash]

theorem location_parseFile {breaks others : List Nat} (front : List Char) {behind other : List Char}
    (agree : AgreeBefore (mark :: behind).length breaks (mark :: other).length others) :
    (parseFile breaks (front ++ mark :: behind)).map location =
      (parseFile others (front ++ mark :: other)).map location := by
  have placed (url : Url) (rest : List Char) :
      Except.map location (.ok (withPath .file breaks url (rest ++ mark :: behind)) :
        Except UrlFault Url) =
      Except.map location (.ok (withPath .file others url (rest ++ mark :: other))) :=
    congrArg Except.ok (location_withPath isMark .file url rest agree)
  have rooted (url : Url) (rest : List Char) :
      Except.map location (.ok (withRootedPath .file breaks url (rest ++ mark :: behind)) :
        Except UrlFault Url) =
      Except.map location (.ok (withRootedPath .file others url (rest ++ mark :: other))) :=
    congrArg Except.ok (location_withRootedPath isMark .file url rest agree)
  rcases Nat.lt_or_ge front.length 2 with short | long
  · rw [parseFile_of_short isMark _ short, parseFile_of_short isMark _ short]
    exact placed _ front
  · obtain ⟨first, second, rest, rfl⟩ : ∃ first second rest, front = first :: second :: rest := by
      match front, long with
      | first :: second :: rest, _ => exact ⟨first, second, rest, rfl⟩
    rw [List.cons_append, List.cons_append, List.cons_append, List.cons_append, parseFile,
      parseFile]
    simp only [splitBefore_path isMark]
    split_ifs
    · exact rooted _ rest
    · exact rooted _ _
    · cases parseDomainHost _ with
      | error fault => rfl
      | ok host =>
          dsimp only [bind, Except.bind]
          split_ifs
          · exact rooted _ _
          · exact placed _ _
    · exact placed _ (first :: second :: rest)

theorem location_parseOther (scheme : String) (front behind other : List Char) :
    (parseOther scheme (front ++ mark :: behind)).map location =
      (parseOther scheme (front ++ mark :: other)).map location := by
  have notSlash : mark ≠ '/' := by rcases isMark with rfl | rfl <;> decide
  have keepsHead {front : List Char} (noSlash : front.head? ≠ some '/') (behind : List Char) :
      (front ++ mark :: behind).head? ≠ some '/' :=
    mt (head?_append_cons_eq_iff notSlash front behind).mp noSlash
  by_cases slash : front.head? = some '/'
  · obtain ⟨rest, rfl⟩ := List.head?_eq_some_iff.mp slash
    by_cases second : rest.head? = some '/'
    · obtain ⟨rest, rfl⟩ := List.head?_eq_some_iff.mp second
      exact location_parseAuthority isMark .other scheme rest behind other
    · rw [List.cons_append, List.cons_append, parseOther_slash scheme (keepsHead second behind),
        parseOther_slash scheme (keepsHead second other)]
      exact congrArg Except.ok (location_withRootedPath isMark .other _ rest (agreeBefore_nil _ _))
  · rw [location_parseOther_of_head scheme (keepsHead slash behind),
      location_parseOther_of_head scheme (keepsHead slash other), splitBefore_tail isMark,
      splitBefore_tail isMark]

/-- What stands behind a question mark or number sign decides neither whether a text is a URL nor
where it leads but for its query and fragment. -/
theorem location_parse (front behind other : List Char) :
    (parse (String.ofList (front ++ mark :: behind))).map location =
      (parse (String.ofList (front ++ mark :: other))).map location := by
  obtain ⟨start, trims⟩ := exists_trim_append isMark front
  obtain ⟨tail, tail_eq⟩ := trims behind
  obtain ⟨otherTail, other_eq⟩ := trims other
  rw [parse, parse, String.toList_ofList, String.toList_ofList, tail_eq, other_eq,
    significant_append isMark, significant_append isMark, splitScheme?_append isMark,
    splitScheme?_append isMark]
  cases splitScheme? (significant start) with
  | none => rfl
  | some parts =>
      obtain ⟨scheme, rest⟩ := parts
      dsimp only [Option.map_some]
      cases SchemeKind.of scheme with
      | file =>
          refine location_parseFile isMark rest fun distance positive => ?_
          have cut (tail : List Char) : mark :: significant tail = significant (mark :: tail) :=
            (significant_append isMark [] tail).symm
          rw [cut, cut, add_mem_breaksOf_iff start _ positive,
            add_mem_breaksOf_iff start _ positive]
      | special =>
          have notSlash := isSlash_mark isMark .special
          dsimp only
          rw [dropWhile_append_cons notSlash, dropWhile_append_cons notSlash]
          exact location_parseAuthority isMark .special scheme _ _ _
      | other => exact location_parseOther isMark scheme rest _ _

end Parse

end ExecutorRegistration.Url
