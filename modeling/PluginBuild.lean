import PluginBuild.Main
import PluginBuild.Proofs.Build.Discipline
import PluginBuild.Proofs.Build.Sources
import PluginBuild.Proofs.Directive.Final
import PluginBuild.Proofs.Directive.Mention
import PluginBuild.Proofs.Directive.Physical
import PluginBuild.Proofs.Host.Symbols
import PluginBuild.Proofs.Launch.AllOrNothing
import PluginBuild.Proofs.Launch.Reaping
import PluginBuild.Proofs.Launch.Request
import PluginBuild.Proofs.Library.Load
import PluginBuild.Proofs.Library.Rendering
import PluginBuild.Proofs.Session.History
import PluginBuild.Proofs.Wire.Kind
