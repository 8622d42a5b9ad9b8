import SpacewayScenarios.Regex.Basic
import SpacewayScenarios.Regex.Locality
import SpacewayScenarios.Regex.Stable
import SpacewayScenarios.Regex.Count
import SpacewayScenarios.Facts
import SpacewayScenarios.Regex.Meaning
import SpacewayScenarios.Growth
import SpacewayScenarios.Script.Basic
import SpacewayScenarios.Script.Client
import SpacewayScenarios.Script.Steps
import SpacewayScenarios.Script.Talks
import SpacewayScenarios.Script.Exit
import SpacewayScenarios.Script.Lifecycle
import SpacewayScenarios.Script.Order
import SpacewayScenarios.Scenario.KickMember
import SpacewayScenarios.Scenario.FourMembersKick
import SpacewayScenarios.Scenario.ThreeMembersKick
import SpacewayScenarios.Scenario.ChannelKick
import SpacewayScenarios.Scenario.ThreeMembers
import SpacewayScenarios.Scenario.Bidirectional
import SpacewayScenarios.Scenario.SpaceModes
import SpacewayScenarios.Scenario.Permissions
import SpacewayScenarios.Scenario.E2ee
import SpacewayScenarios.Verdicts
import SpacewayScenarios.Guards
import SpacewayScenarios.TestRunner
