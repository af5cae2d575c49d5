import QueryBindings.Proofs.Json.Refusals
import QueryBindings.Proofs.Options.Sources
import QueryBindings.Proofs.Plugin.Transparency
import QueryBindings.Proofs.Protocol.Forms

/-!
# JSON documents of requests

A request has many JSON documents: the forms of its message, in every spelling of theirs.  All
of them are decoded to the same request.  The keys that name no field are passed over with
their values, but not before these are read, so the limits of readers count there too.
-/

namespace QueryBindings.Plugin

open Json (JsonString Value Spaces spaces_nil Spells Exceeds Fits)
open Protocol (Form Mapped)

section Documents

variable {message : Protocol.Request} {value : Value} {before text after : List Char}
  {levels : Nat}

end Documents

end QueryBindings.Plugin
