import Kubejob.Core
import Kubejob.FailedJob
import Kubejob.Builder
import Kubejob.Executor
import Kubejob.Shell
import Kubejob.Handshake
import Kubejob.WatchLoop
import Kubejob.LogStream
import Kubejob.LogStreamPod
import Kubejob.Run
import Kubejob.LogOutput
import Kubejob.LabelSelector
