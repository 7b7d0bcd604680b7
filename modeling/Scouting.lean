import Scouting.Go
import Scouting.Go.SortSlice
import Scouting.Go.Base64
import Scouting.Requests.Messages
import Scouting.Requests.Convert
import Scouting.Requests.ConvertFields
import Scouting.Requests.ConvertErrors
import Scouting.Requests.CycleTime
import Scouting.Requests.SubmitActions
import Scouting.Requests.CurrentScouting
import Scouting.Requests.AllMatches
import Scouting.Requests.MatchList
import Scouting.Requests.Username
import Scouting.Requests.DebugClient
import Scouting.Requests.Store
import Scouting.Requests.Handlers
import Scouting.Requests.Server
