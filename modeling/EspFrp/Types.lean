/-!
# Result codes

The result enumeration shared by every component of the client.
-/

namespace EspFrp

/-- `efrp_result_t`. -/
inductive Result where
  | ok
  | wouldBlock
  | eof
  | invalidArgument
  | protocolError
  | capacityExceeded
  | callbackRejected
  | truncated
  | invalidState
  | sessionClosed
  | streamReset
  | timeout
  | cryptoError
  | authenticationFailed
  | counterExhausted
  | negotiationFailed
  | loginRejected
  | tlsTrustError
  | tlsError
  | networkError
  | timeUntrusted
  | cancelled
  | noMemory
  | dnsError
  | proxyRejected
  | workRejected
  | storageError
deriving DecidableEq, Repr

/-- A result that ends something: neither success nor a request to retry. -/
def Result.Terminal (result : Result) : Prop := result ≠ .ok ∧ result ≠ .wouldBlock

instance (result : Result) : Decidable result.Terminal := inferInstanceAs (Decidable (_ ∧ _))

theorem Result.not_terminal {result : Result} (going : ¬ result.Terminal) :
    result = .ok ∨ result = .wouldBlock := by
  by_cases fine : result = .ok
  · exact .inl fine
  · exact .inr (Classical.byContradiction fun error => going ⟨fine, error⟩)

end EspFrp
