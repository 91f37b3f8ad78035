import RosrustAsync.XmlRpc

namespace RosrustAsync

/-! What a client reads of a response, whoever sends it. -/

namespace Dxr

variable {D : Dxr} {α β γ : Type} {c : Conversion D.Value DxrError α}
  {d : Conversion D.Value DxrError β} {f : Conversion D.Value DxrError γ}

/-- The errors of a conversion do not come from a wrong number of values. -/
def Scalar (D : Dxr) {α : Type} (c : Conversion D.Value DxrError α) : Prop :=
  ∀ v e, c.ofValue v = .error e → D.argument e = none

theorem scalar_self : D.Scalar .self := by
  intro v e h
  cases h

theorem eq_nil_of_argument {vs : List D.Value} {e : DxrError} (hc : D.Scalar c) (hd : D.Scalar d)
    (hf : D.Scalar f) (h : (D.members₃ c d f).ofValue vs = .error e)
    (he : D.argument e = some 0) : vs = [] := by
  rcases Members.cons_eq_error h with ⟨v, ws, rfl, hws, hv | hw⟩ | ⟨-, rfl⟩
  · rw [hc v e hv] at he
    cases he
  · rcases Members.cons_eq_error hw with ⟨v, us, rfl, hus, hv | hu⟩ | ⟨hne, -⟩
    · rw [hd v e hv] at he
      cases he
    · rcases Members.one_eq_error hu with ⟨v, rfl, hv⟩ | ⟨hne, -⟩
      · rw [hf v e hv] at he
        cases he
      · exact (hne hus).elim
    · exact (hne hws).elim
  · rw [D.argument_mismatch, Option.some.injEq] at he
    exact List.length_eq_zero_iff.mp he

end Dxr

namespace XmlRpc

variable {D : Dxr}

theorem tryFromValue_argument {v : D.Value} : (∃ e, ApiResponse.tryFromValue v = .error e ∧
    D.argument e = some 0) ↔ v = D.array.toValue [] := by
  constructor
  · rintro ⟨e, h, he⟩
    rcases bind_eq_error.mp h with h | ⟨⟨statusCode, msg, data⟩, -, h⟩
    · rcases bind_eq_error.mp h with h | ⟨vs, hvs, h⟩
      · rw [D.argument_array h] at he
        cases he
      · rw [D.array.ofValue_eq_ok.mp hvs, Dxr.eq_nil_of_argument (fun _ _ h => D.argument_i4 h)
          (fun _ _ h => D.argument_string h) Dxr.scalar_self h he]
    · simp only at h
      split_ifs at h
      cases h
      rw [D.argument_invalidData] at he
      cases he
  · rintro rfl
    refine ⟨D.parameterMismatch 0 3, ?_, D.argument_mismatch 0 3⟩
    simp only [ApiResponse.tryFromValue, responseTuple, Dxr.tuple, Conversion.comp,
      D.array.ofValue_toValue]
    rfl

def statusCode : ApiError → Int32
  | .serverError _ => rpcServerError
  | .invalidRequest _ => rpcInvalidRequest

def message : ApiError → String
  | .serverError msg | .invalidRequest msg => msg

theorem tryFromValue_eq_error {v : D.Value} {e : ApiError} :
    ApiResponse.tryFromValue v = .ok (.error e) ↔
      ∃ data, v = (responseTuple D).toValue (statusCode e, message e, data) := by
  constructor
  · intro h
    obtain ⟨⟨code, msg, data⟩, hv, h⟩ := bind_eq_ok.mp h
    simp only at h
    split_ifs at h with hsuccess hserver hrequest
    · cases h
    · cases h
      exact ⟨data, by rw [(responseTuple D).ofValue_eq_ok.mp hv, hserver]; rfl⟩
    · cases h
      exact ⟨data, by rw [(responseTuple D).ofValue_eq_ok.mp hv, hrequest]; rfl⟩
  · rintro ⟨data, rfl⟩
    simp only [ApiResponse.tryFromValue, (responseTuple D).ofValue_toValue]
    cases e with
    | serverError msg => rfl
    | invalidRequest msg => rfl

theorem tryFromValue_eq_success {v : D.Value} {msg : String} {data : D.Value} :
    ApiResponse.tryFromValue v = .ok (.success msg data) ↔
      v = (responseTuple D).toValue (rpcSuccess, msg, data) := by
  constructor
  · intro h
    obtain ⟨⟨code, msg', data'⟩, hv, h⟩ := bind_eq_ok.mp h
    simp only at h
    split_ifs at h with hsuccess hserver hrequest
    · cases h
      rw [(responseTuple D).ofValue_eq_ok.mp hv, hsuccess]
    · cases h
    · cases h
  · rintro rfl
    exact ApiResponse.tryFromValue_tryToValue (.success msg data)

variable {X : Xml D.Value} {raw : String}

/-- `raw` is no fault, and the response `v`. -/
def Reads (X : Xml D.Value) (raw : String) (v : D.Value) : Prop :=
  (∃ e, X.deserializeFault raw = .error e) ∧ X.deserializeResponse raw = .ok v

theorem responseToResult_of_reads {v : D.Value} (h : Reads X raw v) : responseToResult X raw =
    ((ApiResponse.tryFromValue v).mapError .dxr >>= fun response =>
      match response with
      | .success _ data => .ok data
      | .error e => .error (.api e)) := by
  obtain ⟨⟨e, hfault⟩, hresponse⟩ := h
  simp only [responseToResult, hfault, hresponse]
  rfl

/-- What is no response is an error of another kind. -/
theorem responseToResult_of_not_reads (h : ∀ v, ¬ Reads X raw v) :
    (∃ e, responseToResult X raw = .error (.dxr e) ∧ X.deserializeFault raw = .ok (.error e)) ∨
      (∃ code text, responseToResult X raw = .error (.rpcFault code text)) ∨
        ∃ e, responseToResult X raw = .error (.xmlParse e) := by
  unfold responseToResult
  split
  · rename_i fault hfault
    cases fault with
    | error e => exact .inl ⟨e, rfl, hfault⟩
    | ok fault => exact .inr (.inl ⟨_, _, rfl⟩)
  · rename_i e hfault
    cases hresponse : X.deserializeResponse raw with
    | error e => exact .inr (.inr ⟨e, rfl⟩)
    | ok v => exact (h v ⟨⟨e, hfault⟩, hresponse⟩).elim

theorem responseToResult_eq_ok {data : D.Value} : responseToResult X raw = .ok data ↔
    ∃ msg, Reads X raw ((responseTuple D).toValue (rpcSuccess, msg, data)) := by
  constructor
  · intro h
    by_cases hreads : ∃ v, Reads X raw v
    · obtain ⟨v, hv⟩ := hreads
      rw [responseToResult_of_reads hv] at h
      obtain ⟨response, hresponse, h⟩ := bind_eq_ok.mp h
      cases hvalue : ApiResponse.tryFromValue v with
      | error e =>
        rw [hvalue] at hresponse
        cases hresponse
      | ok response' =>
        rw [hvalue] at hresponse
        cases hresponse
        cases response with
        | success msg data' =>
          cases h
          exact ⟨msg, tryFromValue_eq_success.mp hvalue ▸ hv⟩
        | error e => cases h
    · rcases responseToResult_of_not_reads fun v hv => hreads ⟨v, hv⟩ with
        ⟨e, he, -⟩ | ⟨code, text, he⟩ | ⟨e, he⟩
      all_goals
        rw [he] at h
        cases h
  · rintro ⟨msg, hreads⟩
    rw [responseToResult_of_reads hreads, tryFromValue_eq_success.mpr rfl]
    rfl

theorem responseToResult_eq_api {e : ApiError} : responseToResult X raw = .error (.api e) ↔
    ∃ data, Reads X raw ((responseTuple D).toValue (statusCode e, message e, data)) := by
  constructor
  · intro h
    by_cases hreads : ∃ v, Reads X raw v
    · obtain ⟨v, hv⟩ := hreads
      rw [responseToResult_of_reads hv] at h
      cases hvalue : ApiResponse.tryFromValue v with
      | error e' =>
        rw [hvalue] at h
        cases h
      | ok response =>
        rw [hvalue] at h
        cases response with
        | success msg data => cases h
        | error e' =>
          cases h
          obtain ⟨data, rfl⟩ := tryFromValue_eq_error.mp hvalue
          exact ⟨data, hv⟩
    · rcases responseToResult_of_not_reads fun v hv => hreads ⟨v, hv⟩ with
        ⟨e', he, -⟩ | ⟨code, text, he⟩ | ⟨e', he⟩
      all_goals
        rw [he] at h
        cases h
  · rintro ⟨data, hreads⟩
    rw [responseToResult_of_reads hreads, tryFromValue_eq_error.mpr ⟨data, rfl⟩]
    rfl

theorem responseToResult_eq_dxr {e : DxrError} : responseToResult X raw = .error (.dxr e) ↔
    X.deserializeFault raw = .ok (.error e) ∨
      ∃ v, Reads X raw v ∧ ApiResponse.tryFromValue v = .error e := by
  constructor
  · intro h
    by_cases hreads : ∃ v, Reads X raw v
    · obtain ⟨v, hv⟩ := hreads
      rw [responseToResult_of_reads hv] at h
      cases hvalue : ApiResponse.tryFromValue v with
      | error e' =>
        rw [hvalue] at h
        cases h
        exact .inr ⟨v, hv, hvalue⟩
      | ok response =>
        rw [hvalue] at h
        cases response with
        | success msg data => cases h
        | error e' => cases h
    · rcases responseToResult_of_not_reads fun v hv => hreads ⟨v, hv⟩ with
        ⟨e', he, hfault⟩ | ⟨code, text, he⟩ | ⟨e', he⟩
      all_goals
        rw [he] at h
        cases h
      exact .inl hfault
  · rintro (hfault | ⟨v, hreads, hvalue⟩)
    · simp only [responseToResult, hfault]
      rfl
    · rw [responseToResult_of_reads hreads, hvalue]
      rfl

end XmlRpc

end RosrustAsync
