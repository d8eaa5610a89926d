/-! The text that is served: the one published last. -/

namespace Telemetry

/-- What was published last, if anything was. -/
structure Store where
  latest : Option String := none
  deriving DecidableEq, Repr, Inhabited

namespace Store

/-- With another text in place of the one before. -/
def publish (text : String) (_ : Store) : Store := { latest := some text }

/-- Whether anything was published. -/
def isReady (s : Store) : Bool := s.latest.isSome

end Store
end Telemetry
