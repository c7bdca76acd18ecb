import ExecutorRegistration.Proofs.Submission
import ExecutorRegistration.Proofs.Url.Location

/-!
# Where a registration goes

The path of the endpoint is written behind the whole text of the base URL. If that has a query or a
fragment the path becomes a part of it, and the registration goes to the base URL itself.
-/

namespace ExecutorRegistration

/-! ## Texts of URLs -/

/-- A text has a query or a fragment. -/
def HasTail (text : String) : Prop := '?' ∈ text.toList ∨ '#' ∈ text.toList

instance : DecidablePred HasTail := fun text =>
  inferInstanceAs (Decidable ('?' ∈ text.toList ∨ '#' ∈ text.toList))

theorem hasTail_iff (text : String) :
    HasTail text ↔ ∃ c ∈ text.toList, c = '?' ∨ c = '#' := by
  simp only [and_or_left, exists_or, exists_eq_right]
  rfl

/-- The part of a text before its query and its fragment. -/
def beforeTail (text : String) : String :=
  String.ofList (text.toList.takeWhile fun c => !(c = '?' || c = '#'))

theorem beforeTail_of_not_hasTail {text : String} (noTail : ¬ HasTail text) :
    beforeTail text = text := by
  have all : ∀ c ∈ text.toList, (!(decide (c = '?') || decide (c = '#'))) = true := by
    intro c member
    have notMark : ¬ (c = '?' ∨ c = '#') := fun isMark =>
      noTail ((hasTail_iff text).mpr ⟨c, member, isMark⟩)
    simpa using notMark
  rw [beforeTail, List.takeWhile_eq_self_iff.mpr all, String.ofList_toList]

/-- A text with a query or a fragment is cut before its first mark. -/
theorem HasTail.exists_mark {text : String} (hasTail : HasTail text) :
    ∃ mark behind, (mark = '?' ∨ mark = '#') ∧
      text.toList = (beforeTail text).toList ++ mark :: behind := by
  have joined := List.takeWhile_append_dropWhile (p := fun c => !(c = '?' || c = '#'))
    (l := text.toList)
  rw [beforeTail, String.toList_ofList]
  cases found : text.toList.dropWhile fun c => !(c = '?' || c = '#') with
  | nil =>
      obtain ⟨c, member, isMark⟩ := (hasTail_iff text).mp hasTail
      have notMark := List.dropWhile_eq_nil_iff.mp found c member
      rcases isMark with rfl | rfl <;> simp at notMark
  | cons mark behind =>
      have isMark := List.head_dropWhile_not (fun c => !(c = '?' || c = '#'))
        (List.ne_nil_of_mem (found ▸ List.mem_cons_self ..))
      simp only [found, List.head_cons] at isMark
      refine ⟨mark, behind, Decidable.or_iff_not_imp_left.mpr (by simpa using isMark), ?_⟩
      rw [found] at joined
      exact joined.symm

theorem not_hasTail_beforeTail (text : String) : ¬ HasTail (beforeTail text) := by
  rw [hasTail_iff]
  rintro ⟨c, member, isMark⟩
  rw [beforeTail, String.toList_ofList] at member
  have notMark := List.mem_takeWhile_imp member
  rcases isMark with rfl | rfl <;> simp at notMark

/-! ## The endpoint -/

theorem toList_endpoint (base : String) :
    (endpoint base).toList = base.toList.rdropWhile (· = '/') ++ registrationPath.toList := by
  rw [endpoint, String.toList_append, Text.toList_trimEnd]

theorem not_hasTail_endpoint {base : String} (noTail : ¬ HasTail base) :
    ¬ HasTail (endpoint base) := by
  have pathHasNone : ¬ HasTail registrationPath := by decide
  rw [hasTail_iff] at noTail pathHasNone ⊢
  rintro ⟨c, member, isMark⟩
  rw [toList_endpoint] at member
  rcases List.mem_append.mp member with inBase | inPath
  · exact noTail ⟨c, (List.rdropWhile_prefix _ _).subset inBase, isMark⟩
  · exact pathHasNone ⟨c, inPath, isMark⟩

/-- The slashes at the end of a query or fragment are replaced by the path of the endpoint. -/
theorem exists_endpoint_eq {base front : String} {mark : Char} {behind : List Char}
    (isMark : mark = '?' ∨ mark = '#') (split : base.toList = front.toList ++ mark :: behind) :
    ∃ tail, (endpoint base).toList = front.toList ++ mark :: tail := by
  have notSlash : decide (mark = '/') = false := by rcases isMark with rfl | rfl <;> rfl
  rw [toList_endpoint, split, Url.rdropWhile_append_cons notSlash, List.append_assoc]
  exact ⟨_, rfl⟩

theorem beforeTail_of_split {text front : String} {mark : Char} {behind : List Char}
    (isMark : mark = '?' ∨ mark = '#') (noTail : ¬ HasTail front)
    (split : text.toList = front.toList ++ mark :: behind) : beforeTail text = front := by
  have stops : (!(decide (mark = '?') || decide (mark = '#'))) = false := by
    rcases isMark with rfl | rfl <;> rfl
  rw [beforeTail, split, Url.takeWhile_append_cons stops]
  exact beforeTail_of_not_hasTail noTail

/-- Under a base URL with a query or a fragment there is no other path than its own. -/
theorem beforeTail_endpoint {base : String} (hasTail : HasTail base) :
    beforeTail (endpoint base) = beforeTail base := by
  obtain ⟨mark, behind, isMark, split⟩ := hasTail.exists_mark
  obtain ⟨tail, endpoint_eq⟩ := exists_endpoint_eq isMark split
  exact beforeTail_of_split isMark (not_hasTail_beforeTail base) endpoint_eq

/-- The endpoint is at the location of a base URL with a query or a fragment. -/
theorem exists_parse_endpoint {base : String} {url : Url} (hasTail : HasTail base)
    (accepted : Url.parse base = .ok url) :
    ∃ posted, Url.parse (endpoint base) = .ok posted ∧ posted.location = url.location := by
  obtain ⟨mark, behind, isMark, split⟩ := hasTail.exists_mark
  obtain ⟨tail, endpoint_eq⟩ := exists_endpoint_eq isMark split
  have same := Url.location_parse isMark (beforeTail base).toList behind tail
  rw [← split, ← endpoint_eq, String.ofList_toList, String.ofList_toList, accepted] at same
  obtain ⟨posted, parsed, located⟩ := (map_eq_ok_iff Url.location _ _).mp same.symm
  exact ⟨posted, parsed, located.symm⟩

/-- No text is that text without slashes at its end and with the path of the endpoint. -/
theorem ne_stripped_append {text stripped : String}
    (isStripped : Text.IsStripped '/' text stripped) : text ≠ stripped ++ registrationPath := by
  intro same
  obtain ⟨⟨count, split⟩, -⟩ := isStripped
  rw [same, String.toList_append] at split
  have slashes := List.append_cancel_left split
  have member : 'v' ∈ registrationPath.toList := by decide
  rw [slashes] at member
  exact absurd (List.eq_of_mem_replicate member) (by decide)

theorem exists_stripped_endpoint_iff (base : String) :
    (∃ stripped, Text.IsStripped '/' (beforeTail base) stripped ∧
      beforeTail (endpoint base) = stripped ++ registrationPath) ↔ ¬ HasTail base := by
  constructor
  · rintro ⟨stripped, isStripped, same⟩ hasTail
    rw [beforeTail_endpoint hasTail] at same
    exact ne_stripped_append isStripped same
  · intro noTail
    rw [beforeTail_of_not_hasTail noTail, beforeTail_of_not_hasTail (not_hasTail_endpoint noTail)]
    exact ⟨_, Text.isStripped_trimEnd '/' base, rfl⟩

/-- For every base URL that is accepted one request is sent. Its path is that of the endpoint, below
the path of the base URL without slashes at its end, if the base URL has no query and no fragment,
and only then. Otherwise the request goes where the base URL leads: to the same scheme, authority
and path. -/
theorem send_reaches_endpoint_iff {m : Type → Type} [Monad m] [LawfulMonad m]
    (transport : Transport m) {settings : Settings} {base : String}
    (required : settings.requireApiBaseUrl = .ok base) (payload : Payload) :
    ∃ request,
      SendsOnce transport (fun requests => (send transport.recorded settings payload).run requests)
        request ∧
      ((∃ stripped, Text.IsStripped '/' (beforeTail base) stripped ∧
        beforeTail request.url = stripped ++ "/v1/automations/executor") ↔ ¬ HasTail base) ∧
      (HasTail base → beforeTail request.url = beforeTail base ∧
        ∃ url posted, Url.parse base = .ok url ∧ Url.parse request.url = .ok posted ∧
          posted.location = url.location) := by
  obtain ⟨isSet, url, accepted⟩ := (settings.requireApiBaseUrl_eq_ok_iff base).mp required
  have sent := registrationRequest_of_base isSet accepted payload
  refine ⟨⟨endpoint base, payload.toJson.sorted⟩, ?_, exists_stripped_endpoint_iff base,
    fun hasTail => ⟨beforeTail_endpoint hasTail, ?_⟩⟩
  · exact ⟨Outcome.ofReply, Outcome.reports_ofReply, run_send_recorded sent⟩
  · obtain ⟨posted, parsed, same⟩ := exists_parse_endpoint hasTail accepted
    exact ⟨url, posted, accepted, parsed, same⟩

/-- The slashes at the end of a base URL do not come before the path of the endpoint. -/
theorem send_slashedSettings :
    slashedSettings.requireApiBaseUrl = .ok "https://api.example.com//" ∧
    ∃ request,
      SendsOnce (m := Id) (fun _ => .ok ⟨201, "created"⟩)
        (fun requests => (send (Transport.recorded (m := Id) fun _ => .ok ⟨201, "created"⟩)
          slashedSettings (Payload.unsigned slashedSettings)).run requests) request ∧
      beforeTail request.url = "https://api.example.com/v1/automations/executor" := by
  obtain ⟨url, parsed⟩ := parse_slashed
  have required := (slashedSettings.requireApiBaseUrl_eq_ok_iff _).mpr ⟨rfl, url, parsed⟩
  have noTail : ¬ HasTail "https://api.example.com//" := by decide
  obtain ⟨request, sends, reaches, -⟩ := send_reaches_endpoint_iff (m := Id)
    (fun _ => .ok ⟨201, "created"⟩) required (Payload.unsigned slashedSettings)
  obtain ⟨stripped, isStripped, url_eq⟩ := reaches.mpr noTail
  refine ⟨required, request, sends, ?_⟩
  rw [url_eq, (Text.isStripped_iff _ _ _).mp isStripped]
  decide +kernel

/-- Settings with a base URL that has a query. -/
def queriedSettings : Settings where
  executor := capitalMark
  apiBaseUrl := some "https://api.example.com?key=1"

/-- A registration under a base URL with a query goes to the root of the host. -/
theorem send_queriedSettings :
    queriedSettings.requireApiBaseUrl = .ok "https://api.example.com?key=1" ∧
    ∃ request posted,
      SendsOnce (m := Id) (fun _ => .ok ⟨201, "created"⟩)
        (fun requests => (send (Transport.recorded (m := Id) fun _ => .ok ⟨201, "created"⟩)
          queriedSettings (Payload.unsigned queriedSettings)).run requests) request ∧
      beforeTail request.url = "https://api.example.com" ∧
      Url.parse request.url = .ok posted ∧ posted.path = ['/'] ∧
      posted.query = some "key=1/v1/automations/executor".toList := by
  have found : ((Url.parse (endpoint "https://api.example.com?key=1")).toOption.map fun posted =>
      (posted.path, posted.query)) =
        some (['/'], some "key=1/v1/automations/executor".toList) := by decide +kernel
  obtain ⟨posted, parsed, parts⟩ := Option.map_eq_some_iff.mp found
  obtain ⟨path_eq, query_eq⟩ := Prod.mk.inj parts
  obtain ⟨url, base⟩ : ∃ url, Url.parse "https://api.example.com?key=1" = .ok url :=
    (isSome_toOption_iff _).mp (by decide +kernel)
  have isSet : queriedSettings.apiBaseUrl = some "https://api.example.com?key=1" := rfl
  have sent := registrationRequest_of_base isSet base (Payload.unsigned queriedSettings)
  refine ⟨(queriedSettings.requireApiBaseUrl_eq_ok_iff _).mpr ⟨isSet, url, base⟩, _, posted,
    ⟨Outcome.ofReply, Outcome.reports_ofReply, run_send_recorded sent⟩, ?_,
    (toOption_eq_some_iff _ _).mp parsed, path_eq, query_eq⟩
  decide +kernel

end ExecutorRegistration
